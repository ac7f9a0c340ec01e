import DatagramTunnel.Proofs.Text.Numeral
import DatagramTunnel.Text.Quoted
import DatagramTunnel.Yaml.ScalarText

/-!
# Quoted texts are read back

`Text.Yaml.quote` writes a text as a double-quoted YAML scalar in printable ASCII: a character that
does not show is escaped by its number. So every text that is written is looked at in full
(`readableStart_quote`), and `quotedText_quote` says that the reader of quoted scalars gives the
text again and stops just behind the closing quote.

The reader takes a scalar apart into words and the blanks between them. It never meets a line break
here, so the blanks of a gap all stay. A word is read character by character
(`quotedWord_quoteChar`), a gap space by space (`Gap.scan_spaces`), and `quotedFrom_quoted` goes on
from word to word.
-/

namespace DatagramTunnel.Yaml

open Text
open Text.Yaml (quoteChar quote)

variable {c : Cursor} {char : Char} {text word behind : List Char} {fuel : Nat}

/-! ## Blocks -/

/-- What is split off and what is left are the text. -/
theorem splitBytes_append (room : Nat) (text : List Char) :
    (splitBytes room text).1 ++ (splitBytes room text).2 = text := by
  induction text generalizing room with
  | nil => rfl
  | cons char rest ih =>
    rw [splitBytes]
    split
    · exact congrArg (char :: ·) (ih _)
    · rfl

/-- Every block has room for a character, so less is left than there was. -/
theorem length_splitBytes_lt (char : Char) (rest : List Char) :
    (splitBytes blockSize (char :: rest)).2.length < (char :: rest).length := by
  have fits : char.utf8Size ≤ blockSize := Nat.le_trans char.utf8Size_le_four (by decide)
  have parts := congrArg List.length (splitBytes_append (blockSize - char.utf8Size) rest)
  rw [List.length_append] at parts
  rw [splitBytes, if_pos fits, List.length_cons]
  show (splitBytes (blockSize - char.utf8Size) rest).2.length < rest.length + 1
  omega

/-- Blocks are looked at until nothing is left. The induction is on their bound; the text gets
shorter with every block. -/
theorem readableStart_go (fuel : Nat) (text : List Char) (enough : text.length ≤ fuel)
    (allowed : ∀ char ∈ text, isAllowed char = true) :
    readableStart.go fuel text = (text, true) := by
  induction fuel generalizing text with
  | zero =>
    rw [List.eq_nil_of_length_eq_zero (Nat.le_zero.1 enough)]
    rfl
  | succ fuel ih =>
    cases text with
    | nil =>
      have none_left := ih [] (Nat.zero_le _) allowed
      rw [readableStart.go]
      simp only [splitBytes, List.all_nil, if_true, none_left]
      rfl
    | cons char rest =>
      have shorter := length_splitBytes_lt char rest
      -- The characters of the block and those behind it are characters of the text.
      have together := splitBytes_append blockSize (char :: rest)
      rw [← together] at allowed
      have block_allowed := List.all_eq_true.2 fun c mem =>
        allowed c (List.mem_append_left _ mem)
      have later := ih (splitBytes blockSize (char :: rest)).2 (by omega) fun c mem =>
        allowed c (List.mem_append_right _ mem)
      rw [readableStart.go]
      simp only [block_allowed, if_true, later, together]

/-- **A text of allowed characters is looked at in full.** -/
theorem readableStart_of_allowed (allowed : ∀ char ∈ text, isAllowed char = true) :
    readableStart text = (text, true) :=
  readableStart_go text.length text (Nat.le_refl _) allowed

/-! ## Quoted characters -/

/-- The character shows in ASCII. -/
def Shown (char : Char) : Prop := 0x20 ≤ char.toNat ∧ char.toNat ≤ 0x7E

instance : DecidablePred Shown := fun _ => inferInstanceAs (Decidable (_ ∧ _))

/-- **The three ways to quote a character.** -/
theorem quoteChar_cases (char : Char) :
    ((char = '"' ∨ char = '\\') ∧ quoteChar char = ['\\', char]) ∨
    (Shown char ∧ char ≠ '"' ∧ char ≠ '\\' ∧ quoteChar char = [char]) ∨
    (¬ Shown char ∧ quoteChar char = '\\' :: 'U' :: Numeral.paddedHex 8 char.toNat) := by
  unfold quoteChar
  split
  · exact .inl ⟨.inr rfl, rfl⟩
  · exact .inl ⟨.inl rfl, rfl⟩
  · next backslash quotes =>
    simp only [Bool.and_eq_true, decide_eq_true_eq]
    by_cases shown : 0x20 ≤ char.toNat ∧ char.toNat ≤ 0x7E
    · exact .inr (.inl ⟨shown, quotes, backslash, if_pos shown⟩)
    · exact .inr (.inr ⟨shown, if_neg shown⟩)

/-- The digits of an escape show. -/
theorem shown_of_isHexDigit (digit : Numeral.isHexDigit char = true) : Shown char := by
  obtain ⟨d, read⟩ := Option.isSome_iff_exists.1 digit
  obtain ⟨value, -⟩ := Numeral.digitOf_eq_some_iff.1 read
  simp only [Numeral.digitValue] at value
  unfold Shown
  split at value
  · omega
  · split at value
    · omega
    · split at value
      · omega
      · cases value

/-- All of a quoted text shows. -/
theorem shown_of_mem_quote (mem : char ∈ quote text) : Shown char := by
  simp only [quote, List.mem_append, List.mem_cons, List.mem_flatMap, List.not_mem_nil,
    or_false] at mem
  rcases mem with (rfl | ⟨of, -, mem⟩) | rfl
  · decide
  · -- An escape consists of its backslash, its mark and digits.
    rcases quoteChar_cases of with ⟨special, quoted⟩ | ⟨shown, -, -, quoted⟩ | ⟨-, quoted⟩
    · rw [quoted] at mem
      rcases List.mem_cons.1 mem with rfl | mem
      · decide
      · obtain rfl := List.mem_singleton.1 mem
        rcases special with rfl | rfl
        · decide
        · decide
    · rw [quoted] at mem
      rwa [List.mem_singleton.1 mem]
    · rw [quoted] at mem
      rcases List.mem_cons.1 mem with rfl | mem
      · decide
      · rcases List.mem_cons.1 mem with rfl | digit
        · decide
        · exact shown_of_isHexDigit (Numeral.isHexDigit_of_mem_paddedHex digit)
  · decide

/-- What shows is allowed in a text. -/
theorem isAllowed_of_shown (shown : Shown char) : isAllowed char = true := by
  unfold Shown at shown
  simp only [isAllowed, Bool.or_eq_true, Bool.and_eq_true, decide_eq_true_eq]
  simp [shown]

/-- **A quoted text is looked at in full.** -/
theorem readableStart_quote (text : List Char) : readableStart (quote text) = (quote text, true) :=
  readableStart_of_allowed fun _ mem => isAllowed_of_shown (shown_of_mem_quote mem)

/-! ## Escapes -/

/-- Behind what is skipped stands what followed it. -/
theorem Cursor.rest_skip (here : c.rest = text ++ behind) : (c.skip text.length).rest = behind :=
  (congrArg (List.drop text.length) here).trans List.drop_left

theorem Cursor.skip_zero (c : Cursor) : c.skip 0 = c := rfl

theorem Cursor.skip_skip (c : Cursor) (some more : Nat) :
    (c.skip some).skip more = c.skip (some + more) := by
  simp only [Cursor.skip, List.drop_drop, Nat.add_assoc]

/-- The number of a character is that of the character. -/
theorem charOfNumber?_toNat (char : Char) : charOfNumber? char.toNat = some char := by
  have valid : char.toNat.isValidChar := char.valid
  rw [charOfNumber?, if_pos valid, Char.ofNat_toNat]

/-- No character is past the limit of an escape. -/
theorem toNat_le_max (char : Char) : char.toNat ≤ 0x10FFFF := by
  rcases char.valid with small | ⟨-, small⟩
  · exact Nat.le_trans (Nat.le_of_lt small) (by decide)
  · exact Nat.le_of_lt_succ small

/-- An escaped number is read back. -/
theorem escape?_number (here : c.rest = '\\' :: 'U' :: Numeral.paddedHex 8 char.toNat ++ behind) :
    escape? c = some (char, c.skip 10) := by
  have within := toNat_le_max char
  have length : (Numeral.paddedHex 8 char.toNat).length = 8 :=
    Numeral.length_paddedHex (Nat.lt_of_le_of_lt within (by decide))
  have mark : c.at? 1 = some 'U' := by rw [Cursor.at?, here]; rfl
  have digits : (c.skip 2).rest.take 8 = Numeral.paddedHex 8 char.toNat := by
    show (c.rest.drop 2).take 8 = _
    rw [here]
    exact List.take_left' length
  have number := Numeral.read_paddedHex within 8
  have simple : simpleEscape? 'U' = none := rfl
  have eight : escapeDigits? 'U' = some 8 := rfl
  simp [-List.length_take, escape?, mark, simple, eight, digits, length, number,
    charOfNumber?_toNat]

/-! ## Words and the spaces between them -/

/-- A character that shows, and is no space, stands in a word. -/
theorem not_blank_or_break (shown : Shown char) (space : char ≠ ' ') :
    (isBlank char || isBreak char) = false := by
  rw [← Bool.not_eq_true]
  intro other
  simp only [isBlank, isBreak, Bool.or_eq_true, beq_iff_eq] at other
  rcases other with (rfl | rfl) | (((rfl | rfl) | rfl) | rfl) | rfl
  · exact space rfl
  all_goals exact absurd shown (by decide)

/-- **A quoted character stands for itself.** -/
theorem quotedWord_quoteChar (space : char ≠ ' ') (here : c.rest = quoteChar char ++ behind)
    (fuel : Nat) (read : List Char) :
    quotedWord false (fuel + 1) read c =
      quotedWord false fuel (char :: read) (c.skip (quoteChar char).length) := by
  have no_blank : isBlank '\\' = false := rfl
  have no_break : isBreak '\\' = false := rfl
  rcases quoteChar_cases char with
    ⟨special, quoted⟩ | ⟨shown, quotes, backslash, quoted⟩ | ⟨-, quoted⟩
  · -- A backslash in front of a quote or a backslash gives just that.
    rw [quoted] at here ⊢
    have itself : simpleEscape? char = some char := by rcases special with rfl | rfl <;> rfl
    have kept : isBreak char = false := by rcases special with rfl | rfl <;> rfl
    have escape : escape? c = some (char, c.skip 2) := by
      simp [escape?, Cursor.at?, here, itself]
    simp [quotedWord, Cursor.at?, here, no_blank, no_break, kept, escape]
  · -- Any other character that shows stands there itself.
    rw [quoted] at here ⊢
    have word := not_blank_or_break shown space
    simp [quotedWord, Cursor.at?, here, word, quotes, backslash]
  · -- What does not show is escaped by its number.
    rw [quoted] at here ⊢
    have length : (Numeral.paddedHex 8 char.toNat).length = 8 :=
      Numeral.length_paddedHex (Nat.lt_of_le_of_lt (toNat_le_max char) (by decide))
    have escape := escape?_number here
    have kept : isBreak 'U' = false := rfl
    simp [quotedWord, Cursor.at?, here, no_blank, no_break, kept, escape, length]

/-- **A word is read** up to the space or the closing quote behind it. The induction is on its
characters, each of which takes one round of the reader. -/
theorem quotedWord_quoted {stop : Char} (stops : stop = ' ' ∨ stop = '"') (spaceless : ' ' ∉ word)
    (here : c.rest = word.flatMap quoteChar ++ stop :: behind) (enough : word.length < fuel)
    (read : List Char) :
    quotedWord false fuel read c =
      some (read.reverse ++ word, false, c.skip (word.flatMap quoteChar).length) := by
  induction word generalizing c fuel read with
  | nil =>
    obtain ⟨fuel, rfl⟩ := Nat.exists_eq_add_one_of_ne_zero (Nat.ne_of_gt enough)
    have first : c.at? 0 = some stop := by rw [Cursor.at?, here]; rfl
    rw [quotedWord, first]
    rcases stops with rfl | rfl
    · simp [isBlank, Cursor.skip_zero]
    · simp [isBlank, isBreak, Cursor.skip_zero]
  | cons char word ih =>
    obtain ⟨fuel, rfl⟩ := Nat.exists_eq_add_one_of_ne_zero (Nat.ne_zero_of_lt enough)
    obtain ⟨space, spaceless⟩ := List.ne_and_not_mem_of_not_mem_cons spaceless
    rw [List.flatMap_cons, List.append_assoc] at here
    rw [quotedWord_quoteChar space.symm here, ih spaceless (Cursor.rest_skip here)
      (Nat.lt_of_succ_lt_succ enough), Cursor.skip_skip]
    simp

/-- **The spaces between two words are kept.** -/
theorem Gap.scan_spaces {count : Nat} {next : Char}
    (here : c.rest = List.replicate count ' ' ++ next :: behind)
    (word : (isBlank next || isBreak next) = false) (enough : count < fuel) (blanks : List Char) :
    Gap.scan 0 fuel { blanks } c =
      some ({ blanks := blanks ++ List.replicate count ' ' }, c.skip count) := by
  induction count generalizing c fuel blanks with
  | zero =>
    obtain ⟨fuel, rfl⟩ := Nat.exists_eq_add_one_of_ne_zero (Nat.ne_zero_of_lt enough)
    obtain ⟨no_blank, no_break⟩ := Bool.or_eq_false_iff.1 word
    rw [List.replicate_zero, List.nil_append] at here
    simp [Gap.scan, Cursor.onBlank, Cursor.onBreak, Cursor.at?, here, no_blank, no_break,
      Cursor.skip_zero]
  | succ count ih =>
    obtain ⟨fuel, rfl⟩ := Nat.exists_eq_add_one_of_ne_zero (Nat.ne_zero_of_lt enough)
    rw [List.replicate_succ, List.cons_append] at here
    have on_blank : c.onBlank = true := by rw [Cursor.onBlank, Cursor.at?, here]; rfl
    have left : (c.skip 1).rest = List.replicate count ' ' ++ next :: behind :=
      congrArg (List.drop 1) here
    have later := ih left (Nat.lt_of_succ_lt_succ enough) (blanks ++ [' '])
    have kept : blanks ++ List.replicate (count + 1) ' ' =
        blanks ++ [' '] ++ List.replicate count ' ' := by
      rw [List.replicate_succ, List.append_cons]
    have further : c.skip (count + 1) = (c.skip 1).skip count := by
      rw [Cursor.skip_skip, Nat.add_comm]
    rw [Gap.scan, if_pos on_blank, kept, further]
    simp only [Bool.false_and, Bool.false_eq_true, if_false, here, List.take_succ_cons,
      List.take_zero]
    exact later

/-! ## Quoted texts -/

/-- A text starts with a word, which may be empty, and then spaces. -/
theorem cut_at_spaces (text : List Char) :
    ∃ word count later, text = word ++ (List.replicate count ' ' ++ later) ∧ ' ' ∉ word ∧
      later.head? ≠ some ' ' ∧ (count = 0 → later = []) := by
  induction text with
  | nil => exact ⟨[], 0, [], rfl, List.not_mem_nil, nofun, fun _ => rfl⟩
  | cons char text ih =>
    obtain ⟨word, count, later, rfl, spaceless, next, ended⟩ := ih
    by_cases space : char = ' '
    · subst space
      cases word with
      | nil => exact ⟨[], count + 1, later, rfl, spaceless, next, nofun⟩
      | cons first word =>
        -- The space stands alone, since a word follows it.
        refine ⟨[], 1, first :: word ++ (List.replicate count ' ' ++ later), rfl,
          List.not_mem_nil, ?_, nofun⟩
        rintro ⟨⟩
        exact spaceless List.mem_cons_self
    · refine ⟨char :: word, count, later, rfl, ?_, next, ended⟩
      exact List.not_mem_cons_of_ne_of_not_mem (Ne.symm space) spaceless

/-- Spaces stand for themselves. -/
theorem flatMap_quoteChar_spaces (count : Nat) :
    (List.replicate count ' ').flatMap quoteChar = List.replicate count ' ' := by
  induction count with
  | zero => rfl
  | succ count ih => rw [List.replicate_succ, List.flatMap_cons, ih]; rfl

/-- What is quoted of a text that starts with no space starts with no blank and no break. -/
theorem first_of_quoted (next : text.head? ≠ some ' ') (behind : List Char) :
    ∃ first more, text.flatMap quoteChar ++ '"' :: behind = first :: more ∧
      (isBlank first || isBreak first) = false := by
  cases text with
  | nil => exact ⟨'"', behind, rfl, rfl⟩
  | cons char text =>
    rw [List.flatMap_cons]
    rcases quoteChar_cases char with ⟨-, quoted⟩ | ⟨shown, -, -, quoted⟩ | ⟨-, quoted⟩
    · exact ⟨'\\', _, by rw [quoted]; rfl, rfl⟩
    · have space : char ≠ ' ' := fun space => next (congrArg some space)
      exact ⟨char, _, by rw [quoted]; rfl, not_blank_or_break shown space⟩
    · exact ⟨'\\', _, by rw [quoted]; rfl, rfl⟩

/-- Every character is quoted by at least one. -/
theorem length_le_quoted (text : List Char) : text.length ≤ (text.flatMap quoteChar).length := by
  induction text with
  | nil => exact Nat.le_refl 0
  | cons char text ih =>
    have some_char : 0 < (quoteChar char).length := by
      rcases quoteChar_cases char with ⟨-, quoted⟩ | ⟨-, -, -, quoted⟩ | ⟨-, quoted⟩
      all_goals
        rw [quoted]
        exact Nat.zero_lt_succ _
    rw [List.flatMap_cons, List.length_append, List.length_cons]
    omega

/-- **A quoted text is read back** from behind its opening quote on. The induction is on the bound
of the reader, which takes one word in each round and puts it behind what it has read so far. -/
theorem quotedFrom_quoted (here : c.rest = text.flatMap quoteChar ++ '"' :: behind)
    (inside : c.column ≠ 0) (enough : text.length < fuel) (read : List Char) :
    quotedFrom false fuel read c =
      some (read ++ text, c.skip ((text.flatMap quoteChar).length + 1)) := by
  induction fuel generalizing text c read with
  | zero => exact absurd enough (Nat.not_lt_zero _)
  | succ fuel ih =>
    obtain ⟨word, count, later, rfl, spaceless, next, complete⟩ := cut_at_spaces text
    -- A mark between documents stands at the start of a line, and the opening quote is in front.
    have no_mark : (c.onDocumentMark || c.atEnd) = false := by
      have some_left : c.rest ≠ [] := by
        rw [here]
        exact List.append_ne_nil_of_right_ne_nil _ nofun
      simp [Cursor.onDocumentMark, Cursor.onMark, inside, Cursor.atEnd, some_left]
    rw [List.flatMap_append, List.append_assoc] at here
    have longer : word.length < c.rest.length + 1 := by
      have quoted := length_le_quoted word
      rw [here, List.length_append]
      omega
    have left := Cursor.rest_skip here
    cases count with
    | zero =>
      -- The word is the last one, and the closing quote ends it.
      obtain rfl := complete rfl
      have read_word := quotedWord_quoted (.inr rfl) spaceless here longer []
      have closed : (c.skip (word.flatMap quoteChar).length).has 0 '"' = true := by
        rw [Cursor.has, Cursor.at?, left]
        rfl
      simp [-List.length_flatMap, quotedFrom, no_mark, read_word, closed, Cursor.skip_skip]
    | succ count =>
      -- A space ends the word. Behind the spaces stands the next word, or the closing quote.
      rw [List.flatMap_append, flatMap_quoteChar_spaces, List.append_assoc] at here left
      obtain ⟨first, more, starts, in_word⟩ := first_of_quoted next behind
      rw [starts] at here left
      have read_word := quotedWord_quoted (.inl rfl) spaceless here longer []
      have closed : (c.skip (word.flatMap quoteChar).length).has 0 '"' = false := by
        rw [Cursor.has, Cursor.at?, left]
        rfl
      have wide : count + 1 < (c.skip (word.flatMap quoteChar).length).rest.length + 1 := by
        rw [left, List.length_append, List.length_replicate]
        omega
      have read_gap := Gap.scan_spaces left in_word wide []
      have behind_gap := Cursor.rest_skip left
      rw [List.length_replicate, ← starts, Cursor.skip_skip] at behind_gap
      have shorter : later.length < fuel := by
        simp only [List.length_append, List.length_replicate] at enough
        omega
      have inside : c.column + ((word.flatMap quoteChar).length + (count + 1)) ≠ 0 := by omega
      have read_later := ih behind_gap inside shorter
      have total :
          ((word ++ (List.replicate (count + 1) ' ' ++ later)).flatMap quoteChar).length + 1 =
            (word.flatMap quoteChar).length + (count + 1) +
              ((later.flatMap quoteChar).length + 1) := by
        rw [List.flatMap_append, List.flatMap_append, flatMap_quoteChar_spaces,
          List.length_append, List.length_append, List.length_replicate]
        omega
      rw [total, ← Cursor.skip_skip]
      simp [-List.length_flatMap, quotedFrom, no_mark, read_word, closed, read_gap,
        Cursor.skip_skip, read_later, Gap.text]

/-- **A quoted text is read back**, and the reader stops just behind it. -/
theorem quotedText_quote (here : c.rest = quote text ++ behind) :
    quotedText false c = some (text, c.skip (quote text).length) := by
  have opened : (c.skip 1).rest = text.flatMap quoteChar ++ '"' :: behind := by
    show c.rest.drop 1 = _
    rw [here, quote]
    simp
  have enough : text.length < c.rest.length + 1 := by
    have quoted := length_le_quoted text
    simp only [here, quote, List.length_append, List.length_cons]
    omega
  have length : (quote text).length = 1 + ((text.flatMap quoteChar).length + 1) := by
    simp only [quote, List.length_append, List.length_cons, List.length_nil]
    omega
  rw [quotedText, quotedFrom_quoted opened (Nat.succ_ne_zero _) enough, length, Cursor.skip_skip]
  rfl

end DatagramTunnel.Yaml
