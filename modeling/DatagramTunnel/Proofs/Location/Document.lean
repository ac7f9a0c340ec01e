import DatagramTunnel.Location.Document
import DatagramTunnel.Proofs.Location.Text
import DatagramTunnel.Proofs.Yaml.Document

/-!
# Locations that were read stay as they are

A location that was read from a text is read back from its own text, whatever spelling it was read
from: short or long IPv6 addresses with or without brackets, ports with a sign or with zeros in
front, a default port, or a hostname with colons. So printing what was read gives a text that
reading and printing no longer change (`reprint_render`), also when the text is the string of a JSON
or YAML document (`ofJson_toJson`, `ofYaml_toYaml`).
-/

namespace DatagramTunnel

open Text

/-- Whether a YAML document is well formed and its node is the scalar with a value. -/
def Yaml.Document.Holds (d : Yaml.Document) (value : List Char) : Prop :=
  d.wellFormed = true ∧ ∃ content place rest,
    d.items = ⟨.node (.scalar content), place⟩ :: rest ∧ content.value = value

namespace Location

variable {text document string : List Char} {default : Option UInt16} {l : Location}

/-! ## Texts -/

/-- **A location that was read is read back from its text.** Its own text gives a port, so that the
default port no longer matters. -/
theorem ofChars_renderChars_of_ofChars (read : ofChars text default = .ok l)
    (other : Option UInt16) : ofChars l.renderChars other = .ok l := by
  cases known : l.address with
  | ipv4 a => exact ofChars_renderChars_of_ipv4 known other
  | ipv6 a => exact ofChars_renderChars_of_ipv6 known other
  | hostname name =>
    obtain ⟨plain, host, ⟨tail, rfl⟩, found⟩ := host_of_ofChars read known
    obtain ⟨-, bytes⟩ := Address.eq_encode_of_ofText found
    -- The bytes that were read are those of a text, and this text did not start with a bracket.
    have no_bracket : name.head? ≠ some 0x5B := by
      rw [← bytes, ne_eq, head?_encode_bracket_iff]
      intro bracket
      exact plain (by rw [List.head?_append, bracket]; rfl)
    refine (ofChars_renderChars_of_hostname_iff known other).2 ?_
    exact ⟨host, Utf8.decode_eq_ok_iff.2 bytes, no_bracket, found⟩

/-- Reads a text and prints what was read, `n` times in a row. -/
def reprint : Nat → String → Except HostFault String
  | 0, text => .ok text
  | n + 1, text => match ofText text none with
    | .error fault => .error fault
    | .ok l => reprint n l.render

theorem ofText_render (l : Location) (default : Option UInt16) :
    ofText l.render default = ofChars l.renderChars default := by
  rw [ofText, render, String.toList_ofList]

/-- The text of a location that was read does not change any more. -/
theorem reprint_render (read : ofChars text default = .ok l) (n : Nat) :
    reprint n l.render = .ok l.render := by
  induction n with
  | zero => rfl
  | succ n ih =>
    rw [reprint, ofText_render, ofChars_renderChars_of_ofChars read none]
    exact ih

/-- Locations that were read are told apart by their texts. -/
theorem eq_of_renderChars_eq {text' : List Char} {default' : Option UInt16} {l' : Location}
    (read : ofChars text default = .ok l) (read' : ofChars text' default' = .ok l')
    (same : l.renderChars = l'.renderChars) : l = l' := by
  have back := ofChars_renderChars_of_ofChars read none
  rw [same, ofChars_renderChars_of_ofChars read' none] at back
  cases back
  rfl

/-! ## Documents -/

theorem ofString_eq_ok_iff : ofString string = .ok l ↔ ofChars string none = .ok l := by
  unfold ofString
  cases ofChars string none with
  | error fault => exact iff_of_false nofun nofun
  | ok found =>
    constructor
    · intro same
      cases same
      rfl
    · rintro ⟨⟩
      rfl

/-- A location is read from a JSON document that is just a string of its text. -/
theorem ofJson_eq_ok_iff :
    ofJson document = .ok l ↔
      ∃ string, Json.leadingString? document = some (string, true) ∧ ofString string = .ok l := by
  unfold ofJson
  constructor
  · intro read
    split at read
    · cases read
    · next string wellFormed present =>
      split at read
      · cases read
      · next found =>
        split at read
        · next whole =>
          cases read
          exact ⟨string, by rw [present, whole], found⟩
        · cases read
  · rintro ⟨string, present, found⟩
    rw [present]
    simp only [found, if_true]

/-- A location is read from a YAML document that is just a string of its text. -/
theorem ofYaml_eq_ok_iff :
    ofYaml document = .ok l ↔
      ∃ string, (Yaml.Document.ofText document).Holds string ∧ ofString string = .ok l := by
  unfold ofYaml
  generalize Yaml.Document.ofText document = d
  constructor
  · intro read
    simp only at read
    split at read
    · next content place rest items =>
      split at read
      · next whole => exact ⟨content.value, ⟨whole, content, place, rest, items, rfl⟩, read⟩
      · cases read
    · cases read
  · rintro ⟨string, ⟨whole, content, place, rest, items, rfl⟩, found⟩
    simp only [items, whole, found, if_true]

/-- Reading a written YAML document is reading the text of the location. -/
theorem ofYaml_toYaml (l : Location) : ofYaml l.toYaml = ofString l.renderChars := by
  unfold ofYaml toYaml
  rw [Yaml.Document.ofText_quote]
  rfl

/-- **A location that was read stays as it is.** However it was spelled, printing it and reading it
again, any number of times, changes neither the location nor its text. If it came from a JSON or
YAML document, the documents that it is written as give it again, and so does any other YAML
document of the string that it is written as. Two locations that were read are the same if their
texts are. -/
theorem read_locations_are_stable :
    (∀ text default l, ofText text default = .ok l →
      ofText l.render none = .ok l ∧ ∀ n, reprint n l.render = .ok l.render) ∧
    (∀ document l, ofJson document = .ok l ∨ ofYaml document = .ok l →
      (ofJson l.toJson = .ok l ∧ ofYaml l.toYaml = .ok l) ∧
        ∀ other, (Yaml.Document.ofText other).Holds l.renderChars → ofYaml other = .ok l) ∧
    ∀ text default l text' default' l', ofText text default = .ok l →
      ofText text' default' = .ok l' → l.render = l'.render → l = l' := by
  refine ⟨?_, ?_, ?_⟩
  · intro text default l read
    rw [ofText_render]
    exact ⟨ofChars_renderChars_of_ofChars read none, reprint_render read⟩
  · intro document l read
    obtain ⟨string, found⟩ : ∃ string, ofString string = .ok l := by
      rcases read with read | read
      · obtain ⟨string, -, found⟩ := ofJson_eq_ok_iff.1 read
        exact ⟨string, found⟩
      · obtain ⟨string, -, found⟩ := ofYaml_eq_ok_iff.1 read
        exact ⟨string, found⟩
    -- Both kinds of documents come down to the string.
    have back : ofString l.renderChars = .ok l :=
      ofString_eq_ok_iff.2 (ofChars_renderChars_of_ofChars (ofString_eq_ok_iff.1 found) none)
    refine ⟨⟨by rw [ofJson_toJson, back], by rw [ofYaml_toYaml, back]⟩, ?_⟩
    intro other holds
    exact ofYaml_eq_ok_iff.2 ⟨l.renderChars, holds, back⟩
  · intro text default l text' default' l' read read' same
    exact eq_of_renderChars_eq read read' (String.ofList_injective same)

/-- Other spellings of a location, the last with a tag in a YAML document, all come to it. -/
theorem spellings_come_together :
    let l : Location :=
      .ofIpv6 ⟨[0x20, 0x01, 0x0D, 0xB8, 0, 0, 0, 0, 0, 0, 0, 0, 0, 0, 0, 1], rfl⟩ 80
    (ofText "2001:DB8::0:1:+080" none = .ok l ∧ ofText l.render none = .ok l ∧
      reprint 2 l.render = .ok l.render) ∧
    (ofYaml "!host '[2001:db8::1]:80'".toList = .ok l ∧
      (ofJson l.toJson = .ok l ∧ ofYaml l.toYaml = .ok l) ∧
      (Yaml.Document.ofText "\"[2001:db8::1]:80\"".toList).Holds l.renderChars ∧
      ofYaml "\"[2001:db8::1]:80\"".toList = .ok l) ∧
    ∃ other, ofText "[2001:db8:0:0::1]" (some 80) = .ok other ∧ l = other := by
  intro l
  have padded : ofText "2001:DB8::0:1:+080" none = .ok l := rfl
  have long : ofText "[2001:db8:0:0::1]" (some 80) = .ok l := rfl
  have tagged : ofYaml "!host '[2001:db8::1]:80'".toList = .ok l := rfl
  have text : l.renderChars = "[2001:db8::1]:80".toList := by
    simp +decide [l, ofIpv6, renderChars, Ipv6.render, Ipv6.renderGroups, Ipv6.groups,
      Ipv6.groupsOf, Ipv6.longestZeros, Ipv6.leadingZeros, join, Numeral.hex, Numeral.decimal,
      Numeral.digitChar, BigEndian.decode]
  have holds : (Yaml.Document.ofText "\"[2001:db8::1]:80\"".toList).Holds l.renderChars :=
    ⟨rfl, _, _, _, rfl, text.symm⟩
  obtain ⟨texts, documents, prints⟩ := read_locations_are_stable
  obtain ⟨back, stays⟩ := texts _ none l padded
  obtain ⟨written, strings⟩ := documents _ l (.inr tagged)
  exact ⟨⟨padded, back, stays 2⟩, ⟨tagged, written, holds, strings _ holds⟩,
    l, long, prints _ none l _ (some 80) l padded long rfl⟩

end Location

end DatagramTunnel
