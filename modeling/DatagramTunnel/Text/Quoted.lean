import DatagramTunnel.Text.Hidden
import DatagramTunnel.Text.Numeral

/-!
# Quoted texts

Two ways to put a text between double quotes. `readable` is for messages: what does not show is
named by number. `Yaml.quote` is a double-quoted YAML scalar in printable ASCII.
-/

namespace DatagramTunnel.Text

/-- A character of a text quoted for a message. -/
def readableChar (c : Char) : List Char :=
  match c with
  | '\x00' => ['\\', '0']
  | '\t' => ['\\', 't']
  | '\n' => ['\\', 'n']
  | '\r' => ['\\', 'r']
  | '\\' => ['\\', '\\']
  | '"' => ['\\', '"']
  | c =>
    if c.toNat < 0x20 || c.toNat == 0x7F || (c.toNat > 0x7F && isHidden c) then
      ['\\', 'u', '\x7b'] ++ Numeral.hex c.toNat ++ ['\x7d']
    else [c]

/-- A text quoted for a message. -/
def readable (text : List Char) : List Char := '"' :: text.flatMap readableChar ++ ['"']

/-- A character of a double-quoted YAML scalar. -/
def Yaml.quoteChar (c : Char) : List Char :=
  match c with
  | '\\' => ['\\', '\\']
  | '"' => ['\\', '"']
  | c =>
    if 0x20 ≤ c.toNat && c.toNat ≤ 0x7E then [c]
    else ['\\', 'U'] ++ Numeral.paddedHex 8 c.toNat

/-- A text as a double-quoted YAML scalar. -/
def Yaml.quote (text : List Char) : List Char := '"' :: text.flatMap Yaml.quoteChar ++ ['"']

end DatagramTunnel.Text
