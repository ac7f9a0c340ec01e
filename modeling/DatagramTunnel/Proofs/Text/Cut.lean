import DatagramTunnel.Text.Cut

/-!
# Cuts and joins

Each cut is told by what it leaves on both sides: `splitFirst_eq_some_iff` and
`splitLast_eq_some_iff` say this of one separator, `fields_cases` of all of them. So what has been
joined is cut into the same parts again, as long as no part has a separator: `fields_join`.
-/

namespace DatagramTunnel.Text

variable {α : Type} [DecidableEq α] {separator : α} {text before after part : List α}
  {parts : List (List α)}

/-! ## The first separator -/

theorem splitFirst_append (clear : separator ∉ before) (after : List α) :
    splitFirst separator (before ++ separator :: after) = some (before, after) := by
  induction before with
  | nil => rw [List.nil_append, splitFirst, if_pos rfl]
  | cons c before ih =>
    rw [List.mem_cons, not_or] at clear
    rw [List.cons_append, splitFirst, if_neg (Ne.symm clear.1), ih clear.2]
    rfl

theorem splitFirst_eq_none_iff : splitFirst separator text = none ↔ separator ∉ text := by
  induction text with
  | nil => simp [splitFirst]
  | cons c rest ih =>
    rw [splitFirst, List.mem_cons, not_or]
    by_cases here : c = separator
    · simp [here]
    · rw [if_neg here, Option.map_eq_none_iff, ih]
      exact ⟨fun clear => ⟨Ne.symm here, clear⟩, And.right⟩

/-- The first separator is the one with no other in front of it. -/
theorem splitFirst_eq_some_iff :
    splitFirst separator text = some (before, after) ↔
      text = before ++ separator :: after ∧ separator ∉ before := by
  constructor
  · intro found
    induction text generalizing before with
    | nil => cases found
    | cons c rest ih =>
      rw [splitFirst] at found
      by_cases here : c = separator
      · rw [if_pos here] at found
        cases found
        exact ⟨here ▸ rfl, List.not_mem_nil⟩
      · rw [if_neg here, Option.map_eq_some_iff] at found
        obtain ⟨⟨before', after'⟩, found, same⟩ := found
        cases same
        obtain ⟨cut, clear⟩ := ih found
        refine ⟨congrArg (c :: ·) cut, ?_⟩
        rw [List.mem_cons, not_or]
        exact ⟨Ne.symm here, clear⟩
  · rintro ⟨rfl, clear⟩
    exact splitFirst_append clear after

/-! ## The last separator -/

theorem splitLast_eq_none_iff : splitLast separator text = none ↔ separator ∉ text := by
  induction text with
  | nil => simp [splitLast]
  | cons c rest ih =>
    rw [splitLast, List.mem_cons, not_or, ← ih]
    cases splitLast separator rest with
    | none =>
      by_cases here : c = separator
      · simp [here]
      · simp [here, Ne.symm here]
    | some found => simp

theorem splitLast_append (before : List α) (clear : separator ∉ after) :
    splitLast separator (before ++ separator :: after) = some (before, after) := by
  induction before with
  | nil => rw [List.nil_append, splitLast, splitLast_eq_none_iff.2 clear]; exact if_pos rfl
  | cons c before ih => rw [List.cons_append, splitLast, ih]

/-- The last separator is the one with no other behind it. -/
theorem splitLast_eq_some_iff :
    splitLast separator text = some (before, after) ↔
      text = before ++ separator :: after ∧ separator ∉ after := by
  constructor
  · intro found
    induction text generalizing before with
    | nil => cases found
    | cons c rest ih =>
      rw [splitLast] at found
      -- A separator further on wins over one at the front.
      split at found
      · next later =>
        cases found
        obtain ⟨cut, clear⟩ := ih later
        exact ⟨congrArg (c :: ·) cut, clear⟩
      · next later =>
        by_cases here : c = separator
        · rw [if_pos here] at found
          cases found
          exact ⟨here ▸ rfl, splitLast_eq_none_iff.1 later⟩
        · rw [if_neg here] at found
          cases found
  · rintro ⟨rfl, clear⟩
    exact splitLast_append before clear

/-! ## All separators -/

/-- A part in front of a separator is the first field. -/
theorem fields_append (clear : separator ∉ part) (rest : List α) :
    fields separator (part ++ separator :: rest) = part :: fields separator rest := by
  induction part with
  | nil => rw [List.nil_append, fields, if_pos rfl]
  | cons c part ih =>
    rw [List.mem_cons, not_or] at clear
    rw [List.cons_append, fields, if_neg (Ne.symm clear.1), ih clear.2]

/-- A text without separators is one field. -/
theorem fields_of_clear (clear : separator ∉ part) : fields separator part = [part] := by
  induction part with
  | nil => rfl
  | cons c part ih =>
    rw [List.mem_cons, not_or] at clear
    rw [fields, if_neg (Ne.symm clear.1), ih clear.2]

/-- A text is one field, or a field, a separator, and a text with the other fields. -/
theorem fields_cases (separator : α) (text : List α) :
    (separator ∉ text ∧ fields separator text = [text]) ∨
    ∃ part rest, text = part ++ separator :: rest ∧ separator ∉ part ∧
      fields separator text = part :: fields separator rest := by
  cases cut : splitFirst separator text with
  | none =>
    have clear := splitFirst_eq_none_iff.1 cut
    exact .inl ⟨clear, fields_of_clear clear⟩
  | some found =>
    obtain ⟨part, rest⟩ := found
    obtain ⟨rfl, clear⟩ := splitFirst_eq_some_iff.1 cut
    exact .inr ⟨part, rest, rfl, clear, fields_append clear rest⟩

theorem fields_ne_nil (separator : α) (text : List α) : fields separator text ≠ [] := by
  rcases fields_cases separator text with ⟨-, fields⟩ | ⟨part, rest, -, -, fields⟩
  · rw [fields]; exact nofun
  · rw [fields]; exact nofun

/-- A part behind the last separator is the last field. -/
theorem fields_concat (text : List α) (clear : separator ∉ part) :
    fields separator (text ++ separator :: part) = fields separator text ++ [part] := by
  induction text with
  | nil =>
    rw [fields_append List.not_mem_nil, fields_of_clear clear]
    rfl
  | cons c text ih =>
    rw [List.cons_append, fields, fields, ih]
    by_cases here : c = separator
    · rw [if_pos here, if_pos here]
      rfl
    · rw [if_neg here, if_neg here]
      cases others : fields separator text with
      | nil => exact absurd others (fields_ne_nil separator text)
      | cons first others => rfl

/-- There is one more field than there are separators. -/
theorem length_fields (separator : α) (text : List α) :
    (fields separator text).length = text.count separator + 1 := by
  induction text with
  | nil => rfl
  | cons c rest ih =>
    rw [fields]
    by_cases here : c = separator
    · rw [if_pos here, List.length_cons, ih, here, List.count_cons_self]
    · rw [if_neg here, List.count_cons_of_ne here]
      cases cut : fields separator rest with
      | nil => rw [cut] at ih; cases ih
      | cons part parts => rw [cut] at ih; exact ih

/-- What is in a text is a separator or in a field. -/
theorem mem_fields {c : α} (mem : c ∈ text) :
    c = separator ∨ ∃ part ∈ fields separator text, c ∈ part := by
  induction text with
  | nil => cases mem
  | cons c' rest ih =>
    rw [fields]
    by_cases here : c' = separator
    · rw [if_pos here]
      rcases List.mem_cons.1 mem with rfl | mem
      · exact .inl here
      · exact (ih mem).imp_right fun ⟨part, among, mem⟩ => ⟨part, List.mem_cons_of_mem _ among, mem⟩
    · rw [if_neg here]
      cases cut : fields separator rest with
      | nil => exact absurd cut (fields_ne_nil separator rest)
      | cons part parts =>
        rw [cut] at ih
        rcases List.mem_cons.1 mem with rfl | mem
        · exact .inr ⟨c :: part, List.mem_cons_self, List.mem_cons_self⟩
        · refine (ih mem).imp_right ?_
          rintro ⟨part', among, mem⟩
          -- The front character has joined the first field; the other fields are as they were.
          rcases List.mem_cons.1 among with rfl | among
          · exact ⟨c' :: part', List.mem_cons_self, List.mem_cons_of_mem _ mem⟩
          · exact ⟨part', List.mem_cons_of_mem _ among, mem⟩

/-- What is in joined parts is in a part or in a separator. -/
theorem mem_of_mem_join {β : Type} {separator : List β} {parts : List (List β)} {c : β}
    (mem : c ∈ join separator parts) : c ∈ separator ∨ ∃ part ∈ parts, c ∈ part := by
  fun_induction join separator parts with
  | case1 => cases mem
  | case2 part => exact .inr ⟨part, List.mem_singleton_self part, mem⟩
  | case3 part parts _ ih =>
    rcases List.mem_append.1 mem with mem | mem
    · rcases List.mem_append.1 mem with mem | mem
      · exact .inr ⟨part, List.mem_cons_self, mem⟩
      · exact .inl mem
    · exact (ih mem).imp_right fun ⟨part, among, mem⟩ => ⟨part, List.mem_cons_of_mem _ among, mem⟩

theorem join_cons {β : Type} {separator : β} {parts : List (List β)} (part : List β)
    (some_parts : parts ≠ []) :
    join [separator] (part :: parts) = part ++ separator :: join [separator] parts := by
  cases parts with
  | nil => exact absurd rfl some_parts
  | cons next parts => simp [join]

/-- **Joined parts come apart again**, if none of them has a separator. -/
theorem fields_join (some_parts : parts ≠ []) (clear : ∀ part ∈ parts, separator ∉ part) :
    fields separator (join [separator] parts) = parts := by
  -- The first part stands in front of the first separator, since it has none of its own.
  induction parts with
  | nil => exact absurd rfl some_parts
  | cons part parts ih =>
    obtain ⟨clear_part, clear⟩ := List.forall_mem_cons.1 clear
    by_cases none_left : parts = []
    · rw [none_left]
      exact fields_of_clear clear_part
    · rw [join_cons part none_left, fields_append clear_part, ih none_left clear]

end DatagramTunnel.Text
