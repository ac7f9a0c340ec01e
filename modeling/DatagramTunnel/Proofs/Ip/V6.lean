import DatagramTunnel.Ip.V6
import DatagramTunnel.Proofs.Ip.V4

/-!
# IPv6 addresses are read back

Every IPv6 address is read back from its text (`ofText?_render`): whatever groups stand on the two
sides of the double colon are read back (`side?_renderGroups`), the zeros that it stands for are the
groups that were left out (`groups_longestZeros`), and the IPv4 tail of a mapped address is read as
the last two groups. Any text that is read has a colon, only hexadecimal digits in front of the
first one (`lead_of_ofText?`), and behind the last one a group, an IPv4 address or nothing
(`last_of_ofText?`).
-/

namespace DatagramTunnel.Ipv6

open Text

variable {text part : List Char} {parts : List (List Char)} {octets : List UInt8}
  {groups : List Nat} {g : Nat} {tail : Bool}

/-! ## Groups of bytes -/

theorem groupsOf_lt (octets : List UInt8) : ∀ g ∈ groupsOf octets, g < 65536 := by
  fun_induction groupsOf octets with
  | case1 high low rest ih => exact List.forall_mem_cons.2 ⟨BigEndian.decode_lt high low, ih⟩
  | case2 => exact nofun

/-- Bytes in pairs are the bytes of their groups. -/
theorem flatMap_encode_groupsOf (even : octets.length % 2 = 0) :
    (groupsOf octets).flatMap BigEndian.encode = octets := by
  fun_induction groupsOf octets with
  | case1 high low rest ih =>
    rw [List.length_cons, List.length_cons] at even
    rw [List.flatMap_cons, BigEndian.encode_decode, ih (by omega)]
    rfl
  | case2 octets unpaired =>
    -- An even number of bytes that does not start with two is none.
    match octets, even with
    | [], _ => rfl
    | high :: low :: rest, _ => exact absurd rfl (unpaired high low rest)

theorem length_flatMap_encode (groups : List Nat) :
    (groups.flatMap BigEndian.encode).length = 2 * groups.length := by
  induction groups with
  | nil => rfl
  | cons g groups ih =>
    rw [List.flatMap_cons, List.length_append, BigEndian.length_encode, ih, List.length_cons]
    omega

theorem length_groups (a : Ipv6) : a.groups.length = 8 := by
  have even : a.octets.length % 2 = 0 := by rw [a.length_octets]
  have bytes := congrArg List.length (flatMap_encode_groupsOf even)
  rw [length_flatMap_encode, a.length_octets] at bytes
  rw [groups]
  omega

theorem ofOctets?_octets (a : Ipv6) : ofOctets? a.octets = some a := dif_pos a.length_octets

/-- The groups of an address make that address. -/
theorem ofGroups?_groups (a : Ipv6) : ofGroups? a.groups = some a := by
  rw [ofGroups?, groups, flatMap_encode_groupsOf (by rw [a.length_octets]), ofOctets?_octets]

/-- Only eight groups make an address. -/
theorem length_of_ofGroups? {a : Ipv6} (h : ofGroups? groups = some a) : groups.length = 8 := by
  obtain ⟨length, -⟩ := Option.dite_none_right_eq_some.1 h
  rw [length_flatMap_encode] at length
  omega

/-! ## Reading groups -/

/-- A group is read back from its text, which has at most four digits. -/
theorem group?_hex (small : g < 65536) : group? (Numeral.hex g) = some g := by
  have short : (Numeral.hex g).length ≤ 4 := Numeral.hex_positional.length_le 3 g small
  have read : Numeral.read 16 Numeral.max16 (Numeral.hex g) = .ok g :=
    Numeral.hex_positional.read_eq (Nat.le_of_lt_succ small)
  rw [group?, if_neg (by omega), read]

theorem digits_of_group? (h : group? part = some g) : ∀ c ∈ part, Numeral.isHexDigit c = true := by
  rw [group?] at h
  split at h
  · cases h
  · split at h
    · next n read => exact (Numeral.digits_of_read read).2
    · cases h

/-- A part in front of others is one group. -/
theorem groups?_cons (part : List Char) (more : parts ≠ []) :
    groups? tail (part :: parts) =
      (group? part).bind fun g => (groups? tail parts).map (g :: ·) := by
  cases parts with
  | nil => exact absurd rfl more
  | cons next parts =>
    rw [groups?]
    · cases group? part <;> cases groups? tail (next :: parts) <;> rfl
    · exact nofun

/-- The last part is one group if it is no IPv4 address. -/
theorem groups?_singleton (plain : Ipv4.ofText? part = none) :
    groups? tail [part] = (group? part).map ([·]) := by
  rw [groups?, plain, ite_self]

/-- Groups in hexadecimal are read back. -/
theorem groups?_hex (tail : Bool) (small : ∀ g ∈ groups, g < 65536) :
    groups? tail (groups.map Numeral.hex) = some groups := by
  induction groups with
  | nil => rfl
  | cons g groups ih =>
    obtain ⟨small_group, small⟩ := List.forall_mem_cons.1 small
    by_cases last : groups = []
    · -- The last part may be an IPv4 address where `tail` allows one, but it has no point.
      have no_point : '.' ∉ Numeral.hex g := Numeral.not_mem_hex rfl g
      rw [last, List.map_cons, List.map_nil,
        groups?_singleton (Ipv4.ofText?_of_no_point no_point), group?_hex small_group]
      rfl
    · have more : groups.map Numeral.hex ≠ [] := mt List.map_eq_nil_iff.1 last
      rw [List.map_cons, groups?_cons _ more, group?_hex small_group, ih small]
      rfl

/-- Groups in hexadecimal, with colons between them, are cut apart at the colons. -/
theorem fields_renderGroups (some_groups : groups ≠ []) :
    fields ':' (renderGroups groups) = groups.map Numeral.hex := by
  refine fields_join (mt List.map_eq_nil_iff.1 some_groups) ?_
  intro part among
  obtain ⟨g, -, rfl⟩ := List.mem_map.1 among
  exact Numeral.not_mem_hex rfl g

theorem renderGroups_cons (g : Nat) (some_groups : groups ≠ []) :
    renderGroups (g :: groups) = Numeral.hex g ++ ':' :: renderGroups groups :=
  join_cons _ (mt List.map_eq_nil_iff.1 some_groups)

/-- Groups in hexadecimal start with a digit. -/
theorem renderGroups_starts (some_groups : groups ≠ []) :
    ∃ c rest, renderGroups groups = c :: rest ∧ Numeral.isHexDigit c = true := by
  cases groups with
  | nil => exact absurd rfl some_groups
  | cons g groups =>
    obtain ⟨c, digits, first⟩ := List.exists_cons_of_ne_nil (Numeral.hex_positional.digits_ne_nil g)
    have digit : Numeral.isHexDigit c = true :=
      Numeral.isHexDigit_of_mem_hex (first ▸ List.mem_cons_self)
    by_cases last : groups = []
    · rw [last]
      exact ⟨c, digits, first, digit⟩
    · refine ⟨c, digits ++ ':' :: renderGroups groups, ?_, digit⟩
      rw [renderGroups_cons g last, first, List.cons_append]

/-- **Groups on one side of a double colon are read back**, and so are none. -/
theorem side?_renderGroups (tail : Bool) (small : ∀ g ∈ groups, g < 65536) :
    side? tail (renderGroups groups) = some groups := by
  by_cases none_there : groups = []
  · subst none_there
    rfl
  · -- The reader takes an empty text for no groups, so the text must not be empty.
    obtain ⟨c, rest, written, -⟩ := renderGroups_starts none_there
    have some_text : (renderGroups groups).isEmpty = false := by rw [written]; rfl
    rw [side?, some_text, fields_renderGroups none_there, groups?_hex tail small]
    rfl

/-! ## The double colon -/

/-- A text is cut in front of its double colon and behind it. -/
theorem eq_of_splitDoubleColon {before after : List Char}
    (h : splitDoubleColon text = some (before, after)) : text = before ++ ':' :: ':' :: after := by
  fun_induction splitDoubleColon text generalizing before with
  | case1 => cases h
  | case2 rest => cases h; rfl
  | case3 c rest _ ih =>
    obtain ⟨⟨before', after'⟩, found, same⟩ := Option.map_eq_some_iff.1 h
    cases same
    exact congrArg (c :: ·) (ih found)

/-- What has no colon does not hide a double one. -/
theorem splitDoubleColon_append (clear : ':' ∉ part) (rest : List Char) :
    splitDoubleColon (part ++ rest) =
      (splitDoubleColon rest).map fun (before, after) => (part ++ before, after) := by
  induction part with
  | nil => simp
  | cons c part ih =>
    rw [List.mem_cons, not_or] at clear
    -- The pattern of a double colon does not match, because the first character is none.
    have step : splitDoubleColon (c :: (part ++ rest)) =
        (splitDoubleColon (part ++ rest)).map fun (before, after) => (c :: before, after) := by
      rw [splitDoubleColon]
      rintro _ rfl
      exact absurd rfl clear.1
    rw [List.cons_append, step, ih clear.2, Option.map_map]
    rfl

/-- Neither does one colon in front of something else. -/
theorem splitDoubleColon_colon (single : text.head? ≠ some ':') :
    splitDoubleColon (':' :: text) =
      (splitDoubleColon text).map fun (before, after) => (':' :: before, after) := by
  cases text with
  | nil => rfl
  | cons c text =>
    rw [splitDoubleColon]
    rintro _ - same
    cases same
    exact single rfl

/-- Groups in hexadecimal do not hide a double colon behind them, and have none of their own. -/
theorem splitDoubleColon_renderGroups (groups : List Nat) (rest : List Char) :
    splitDoubleColon (renderGroups groups ++ rest) =
      (splitDoubleColon rest).map fun (before, after) =>
        (renderGroups groups ++ before, after) := by
  have clear : ∀ g, ':' ∉ Numeral.hex g := Numeral.not_mem_hex rfl
  induction groups with
  | nil => simp [renderGroups, join]
  | cons g groups ih =>
    by_cases last : groups = []
    · rw [last]
      exact splitDoubleColon_append (clear g) rest
    · -- The colon behind the first group is single, since a digit follows it.
      have single : (renderGroups groups ++ rest).head? ≠ some ':' := by
        obtain ⟨c, more, written, digit⟩ := renderGroups_starts last
        rw [written]
        rintro ⟨⟩
        cases digit
      rw [renderGroups_cons g last, List.append_assoc, splitDoubleColon_append (clear g),
        List.cons_append, splitDoubleColon_colon single, ih, Option.map_map, Option.map_map]
      simp [Function.comp_def]

/-! ## Runs of zeros -/

theorem take_leadingZeros (groups : List Nat) :
    groups.take (leadingZeros groups) = List.replicate (leadingZeros groups) 0 := by
  induction groups with
  | nil => rfl
  | cons g groups ih =>
    by_cases zero : g = 0
    · have count : leadingZeros (g :: groups) = leadingZeros groups + 1 := by
        simp [leadingZeros, zero]
      rw [count, List.take_succ_cons, ih, zero, List.replicate_succ]
    · have count : leadingZeros (g :: groups) = 0 := by simp [leadingZeros, zero]
      rw [count]
      rfl

theorem longestZeros_zeros (groups : List Nat) :
    (groups.drop (longestZeros groups).1).take (longestZeros groups).2 =
      List.replicate (longestZeros groups).2 0 := by
  induction groups with
  | nil => rfl
  | cons g groups ih =>
    rw [longestZeros]
    split
    next start length later =>
    rw [later] at ih
    -- The run at the front wins over a later one that is no longer than it.
    by_cases longer : length ≤ leadingZeros (g :: groups)
    · rw [if_pos longer]
      exact take_leadingZeros (g :: groups)
    · rw [if_neg longer]
      exact ih

/-- What the double colon stands for is zeros. -/
theorem groups_longestZeros (groups : List Nat) :
    groups.take (longestZeros groups).1 ++ List.replicate (longestZeros groups).2 0 ++
      groups.drop ((longestZeros groups).1 + (longestZeros groups).2) = groups := by
  rw [← longestZeros_zeros, ← List.drop_drop, List.append_assoc, List.take_append_drop,
    List.take_append_drop]

/-! ## Addresses -/

/-- A text without a double colon gives all eight groups. -/
theorem ofText?_renderGroups (some_groups : groups ≠ []) (small : ∀ g ∈ groups, g < 65536) :
    ofText? (renderGroups groups) = ofGroups? groups := by
  have single : splitDoubleColon (renderGroups groups) = none := by
    have split := splitDoubleColon_renderGroups groups []
    rwa [List.append_nil] at split
  rw [ofText?, single]
  simp only [fields_renderGroups some_groups, groups?_hex true small]
  rfl

/-- A double colon stands for the zeros between the groups on its two sides. -/
theorem ofText?_of_split {before after : List Char} {head tail : List Nat}
    (split : splitDoubleColon text = some (before, after))
    (read_head : side? false before = some head) (read_tail : side? true after = some tail)
    (room : head.length + tail.length ≤ 7) :
    ofText? text =
      ofGroups? (head ++ List.replicate (8 - head.length - tail.length) 0 ++ tail) := by
  rw [ofText?, split]
  simp only [read_head, read_tail]
  exact if_neg (by omega)

/-- Groups on both sides of a double colon are read back, with zeros between them. -/
theorem ofText?_shortened {head tail : List Nat} (small_head : ∀ g ∈ head, g < 65536)
    (small_tail : ∀ g ∈ tail, g < 65536) (room : head.length + tail.length ≤ 7) :
    ofText? (renderGroups head ++ "::".toList ++ renderGroups tail) =
      ofGroups? (head ++ List.replicate (8 - head.length - tail.length) 0 ++ tail) := by
  refine ofText?_of_split ?_ (side?_renderGroups false small_head)
    (side?_renderGroups true small_tail) room
  rw [List.append_assoc, splitDoubleColon_renderGroups]
  show some (renderGroups head ++ [], renderGroups tail) = _
  rw [List.append_nil]

theorem length_groupsOf_four (length : octets.length = 4) : (groupsOf octets).length = 2 := by
  have bytes := congrArg List.length (flatMap_encode_groupsOf (by rw [length]))
  rw [length_flatMap_encode, length] at bytes
  omega

/-- The text of a mapped IPv4 address is read with that address as its last two groups. -/
theorem ofText?_mapped (length : octets.length = 4) :
    ofText? ("::ffff:".toList ++ Ipv4.renderOctets octets) =
      ofGroups? ([0, 0, 0, 0, 0, 0xFFFF] ++ groupsOf octets) := by
  have dotted := Ipv4.ofText?_renderOctets length
  have clear : ':' ∉ Ipv4.renderOctets octets := fun colon => by
    rcases (Ipv4.shape_of_ofText? dotted).2 ':' colon with ⟨⟨⟩⟩ | ⟨⟨⟩⟩
  have two := length_groupsOf_four length
  have parts : fields ':' ("ffff".toList ++ ':' :: Ipv4.renderOctets octets) =
      ["ffff".toList, Ipv4.renderOctets octets] := by
    rw [fields_append (by decide), fields_of_clear clear]
  have tail : side? true ("ffff".toList ++ ':' :: Ipv4.renderOctets octets) =
      some (0xFFFF :: groupsOf octets) := by
    show groups? true (fields ':' _) = _
    rw [parts, groups?_cons _ (List.cons_ne_nil _ _), groups?, if_pos rfl, dotted]
    rfl
  have split : splitDoubleColon ("::ffff:".toList ++ Ipv4.renderOctets octets) =
      some ([], "ffff".toList ++ ':' :: Ipv4.renderOctets octets) := rfl
  rw [ofText?_of_split split rfl tail (by simp [two])]
  simp only [List.length_cons, two]
  rfl

/-- **Every IPv6 address is read back from its text.** -/
theorem ofText?_render (a : Ipv6) : ofText? a.render = some a := by
  have small : ∀ g ∈ a.groups, g < 65536 := groupsOf_lt a.octets
  have eight := a.length_groups
  rw [render]
  by_cases mapped : a.octets.take 12 = mappedLead
  · -- The last four bytes are written as an IPv4 address, and the bytes in front are known.
    have length : (a.octets.drop 12).length = 4 := by rw [List.length_drop, a.length_octets]
    have bytes : ([0, 0, 0, 0, 0, 0xFFFF] ++ groupsOf (a.octets.drop 12)).flatMap BigEndian.encode =
        a.octets := by
      rw [List.flatMap_append, flatMap_encode_groupsOf (by rw [length])]
      show mappedLead ++ _ = _
      rw [← mapped, List.take_append_drop]
    rw [if_pos mapped, ofText?_mapped length, ofGroups?, bytes, ofOctets?_octets]
  rw [if_neg mapped]
  have whole := groups_longestZeros a.groups
  rcases run : longestZeros a.groups with ⟨start, length⟩
  simp only [run] at whole
  by_cases short : length < 2
  · have some_groups : a.groups ≠ [] := by
      intro none_there
      rw [none_there] at eight
      cases eight
    simp only [run, if_pos short]
    rw [ofText?_renderGroups some_groups small, ofGroups?_groups]
  · -- The reader counts the zeros that are left out by the groups that are there.
    have left := congrArg List.length whole
    rw [List.length_append, List.length_append, List.length_replicate, eight] at left
    simp only [run, if_neg short]
    have small_head : ∀ g ∈ a.groups.take start, g < 65536 := by
      intro g mem
      exact small g (List.mem_of_mem_take mem)
    have small_tail : ∀ g ∈ a.groups.drop (start + length), g < 65536 := by
      intro g mem
      exact small g (List.mem_of_mem_drop mem)
    rw [ofText?_shortened small_head small_tail (by omega)]
    have zeros : 8 - (a.groups.take start).length - (a.groups.drop (start + length)).length =
      length := by omega
    rw [zeros, whole, ofGroups?_groups]

theorem mem_renderGroups {c : Char} (mem : c ∈ renderGroups groups) :
    c = ':' ∨ Numeral.isHexDigit c = true := by
  rcases mem_of_mem_join mem with colon | ⟨part, among, mem⟩
  · exact .inl (List.mem_singleton.1 colon)
  · obtain ⟨g, -, rfl⟩ := List.mem_map.1 among
    exact .inr (Numeral.isHexDigit_of_mem_hex mem)

/-- The text of an address has only hexadecimal digits, colons and points. -/
theorem mem_render {a : Ipv6} {c : Char} (mem : c ∈ a.render) :
    c = ':' ∨ c = '.' ∨ Numeral.isHexDigit c = true := by
  have grouped {groups : List Nat} (mem : c ∈ renderGroups groups) :
      c = ':' ∨ c = '.' ∨ Numeral.isHexDigit c = true := (mem_renderGroups mem).imp_right .inr
  rw [render] at mem
  split at mem
  · rcases List.mem_append.1 mem with mem | mem
    · have front : ("::ffff:".toList.all fun c => c = ':' ∨ Numeral.isHexDigit c) = true := rfl
      exact (of_decide_eq_true (List.all_eq_true.1 front c mem)).imp_right .inr
    · have length : (a.octets.drop 12).length = 4 := by rw [List.length_drop, a.length_octets]
      have dotted := Ipv4.shape_of_ofText? (Ipv4.ofText?_renderOctets length)
      exact .inr ((dotted.2 c mem).imp_right Numeral.isHexDigit_of_isDigit)
  · simp only at mem
    split at mem
    · exact grouped mem
    · rcases List.mem_append.1 mem with mem | mem
      · rcases List.mem_append.1 mem with mem | mem
        · exact grouped mem
        · have colons : "::".toList = List.replicate 2 ':' := rfl
          rw [colons] at mem
          exact .inl (List.eq_of_mem_replicate mem)
      · exact grouped mem

/-- Parts are read as one group, or the first of several parts is, unless they are just an IPv4
address. -/
theorem first_of_groups? (h : groups? tail (fields ':' text) = some groups)
    (more : tail = false ∨ 2 < groups.length) :
    (∃ g, group? text = some g ∧ groups = [g]) ∨
      ∃ part rest g, text = part ++ ':' :: rest ∧ group? part = some g := by
  rcases fields_cases ':' text with ⟨-, one⟩ | ⟨part, rest, cut, -, several⟩
  · -- A single part that is an IPv4 address would give two groups.
    left
    have plain : (if tail then Ipv4.ofText? text else none) = none := by
      cases tail with
      | false => rfl
      | true =>
        cases dotted : Ipv4.ofText? text with
        | none => rfl
        | some a =>
          rw [one, groups?, if_pos rfl, dotted] at h
          cases h
          have two := length_groupsOf_four a.length_octets
          rcases more with ⟨⟨⟩⟩ | more
          omega
    rw [one, groups?, plain] at h
    obtain ⟨g, first, rfl⟩ := Option.map_eq_some_iff.1 h
    exact ⟨g, first, rfl⟩
  · right
    rw [several, groups?_cons part (fields_ne_nil ':' rest)] at h
    obtain ⟨g, first, -⟩ := Option.bind_eq_some_iff.1 h
    exact ⟨part, rest, g, cut, first⟩

/-- A text that is read has a colon, and only hexadecimal digits in front of the first one. -/
theorem lead_of_ofText? {a : Ipv6} (h : ofText? text = some a) :
    ∃ lead rest, text = lead ++ ':' :: rest ∧ ∀ c ∈ lead, Numeral.isHexDigit c = true := by
  rw [ofText?] at h
  cases split : splitDoubleColon text with
  | none =>
    simp only [split] at h
    obtain ⟨groups, read, made⟩ := Option.bind_eq_some_iff.1 h
    have eight := length_of_ofGroups? made
    -- Eight groups are more than one part, and the first part is in front of the first colon.
    rcases first_of_groups? read (.inr (by omega)) with ⟨g, -, rfl⟩ | ⟨part, rest, g, cut, first⟩
    · cases eight
    · exact ⟨part, rest, cut, digits_of_group? first⟩
  | some found =>
    obtain ⟨before, after⟩ := found
    simp only [split] at h
    obtain ⟨head, read, -⟩ := Option.bind_eq_some_iff.1 h
    rw [eq_of_splitDoubleColon split]
    cases before with
    | nil => exact ⟨[], ':' :: after, rfl, nofun⟩
    | cons c before =>
      have read : groups? false (fields ':' (c :: before)) = some head := read
      rcases first_of_groups? read (.inl rfl) with ⟨g, one, -⟩ | ⟨part, rest, g, cut, first⟩
      · exact ⟨c :: before, ':' :: after, rfl, digits_of_group? one⟩
      · refine ⟨part, rest ++ ':' :: ':' :: after, ?_, digits_of_group? first⟩
        rw [cut, List.append_assoc, List.cons_append]

/-! ## The last part -/

/-- There are as many groups as parts, or one more if the last part is an IPv4 address. -/
theorem length_of_groups? (h : groups? tail parts = some groups) :
    groups.length ≤ parts.length + 1 := by
  induction parts generalizing groups with
  | nil => cases h; exact Nat.zero_le 1
  | cons part parts ih =>
    -- Only the last part may give two groups.
    by_cases last : parts = []
    · subst last
      rw [groups?] at h
      split at h
      · next a _ =>
        cases h
        exact Nat.le_of_eq (length_groupsOf_four a.length_octets)
      · obtain ⟨g, -, rfl⟩ := Option.map_eq_some_iff.1 h
        exact Nat.le_succ 1
    · rw [groups?_cons part last] at h
      obtain ⟨g, -, h⟩ := Option.bind_eq_some_iff.1 h
      obtain ⟨others, read, rfl⟩ := Option.map_eq_some_iff.1 h
      exact Nat.succ_le_succ (ih read)

/-- The last part is one group, or an IPv4 address. -/
theorem last_of_groups? (h : groups? tail (parts ++ [part]) = some groups) :
    (∃ g, group? part = some g) ∨ ∃ a, Ipv4.ofText? part = some a := by
  induction parts generalizing groups with
  | nil =>
    rw [List.nil_append, groups?] at h
    split at h
    · next a dotted =>
      exact .inr ⟨a, (Option.ite_none_right_eq_some.1 dotted).2⟩
    · obtain ⟨g, read, -⟩ := Option.map_eq_some_iff.1 h
      exact .inl ⟨g, read⟩
  | cons first parts ih =>
    have more : parts ++ [part] ≠ [] := by simp
    rw [List.cons_append, groups?_cons first more] at h
    obtain ⟨g, -, h⟩ := Option.bind_eq_some_iff.1 h
    obtain ⟨others, read, -⟩ := Option.map_eq_some_iff.1 h
    exact ih read

/-- There are groups on a side of a double colon that has a text. -/
theorem side?_of_some (some_text : text ≠ []) :
    side? tail text = groups? tail (fields ':' text) := by
  rw [side?, if_neg (by simpa using some_text)]

/-- What stands behind the last colon of an address: nothing, one group, or an IPv4 address. -/
def LastPart (part : List Char) : Prop :=
  part = [] ∨ (∃ g, group? part = some g) ∨ ∃ a, Ipv4.ofText? part = some a

theorem length_of_group? (h : group? part = some g) : part.length ≤ 4 := by
  rw [group?] at h
  split at h
  · cases h
  · omega

/-- The characters of a last part are hexadecimal digits and points. -/
theorem LastPart.characters (last : LastPart part) :
    ∀ c ∈ part, c = '.' ∨ Numeral.isHexDigit c = true := by
  rcases last with rfl | ⟨g, read⟩ | ⟨a, read⟩
  · exact nofun
  · exact fun c mem => .inr (digits_of_group? read c mem)
  · intro c mem
    exact ((Ipv4.shape_of_ofText? read).2 c mem).imp_right Numeral.isHexDigit_of_isDigit

/-- **When a last part is also a 16-bit number in decimal**: if it has digits, and all of them are
decimal. A group has too few digits to be past the limit. -/
theorem LastPart.readWord16_iff (last : LastPart part) :
    (∃ number, Numeral.readWord16 part = .ok number) ↔
      part ≠ [] ∧ ∀ c ∈ part, Numeral.isDigit c = true := by
  have plain : '+' ∉ part := fun sign => by
    rcases last.characters '+' sign with ⟨⟨⟩⟩ | ⟨⟨⟩⟩
  rw [Numeral.readWord16_iff_read plain]
  constructor
  · rintro ⟨n, read⟩
    obtain ⟨some_part, digits⟩ := Numeral.digits_of_read read
    exact ⟨some_part, fun c mem => Numeral.isDigit_iff.2 (digits c mem)⟩
  · rintro ⟨some_part, digits⟩
    rcases last with nothing | ⟨g, group⟩ | ⟨a, dotted⟩
    · exact absurd nothing some_part
    · have few : Nat.pow 10 part.length ≤ Nat.pow 10 4 :=
        Nat.pow_le_pow_right (by decide) (length_of_group? group)
      exact Numeral.read_of_digits some_part (fun c mem => Numeral.isDigit_iff.1 (digits c mem))
        (Nat.le_trans few (by decide))
    · have point : '.' ∈ part := by
        rw [← List.count_pos_iff, (Ipv4.shape_of_ofText? dotted).1]
        decide
      cases digits '.' point

/-- **A text that is read has two colons**, and behind the last one is a part of an address. -/
theorem last_of_ofText? {a : Ipv6} (h : ofText? text = some a) :
    ∃ before last, text = before ++ ':' :: last ∧ ':' ∈ before ∧ ':' ∉ last ∧ LastPart last := by
  rw [ofText?] at h
  cases split : splitDoubleColon text with
  | none =>
    simp only [split] at h
    obtain ⟨groups, read, made⟩ := Option.bind_eq_some_iff.1 h
    -- Eight groups are seven parts at least, and so there are six colons at least.
    have parts := length_of_groups? read
    rw [length_of_ofGroups? made, length_fields] at parts
    cases cut : splitLast ':' text with
    | none =>
      rw [List.count_eq_zero.2 (splitLast_eq_none_iff.1 cut)] at parts
      omega
    | some found =>
      obtain ⟨before, last⟩ := found
      obtain ⟨rfl, clear⟩ := splitLast_eq_some_iff.1 cut
      rw [fields_concat before clear] at read
      refine ⟨before, last, rfl, ?_, clear, .inr (last_of_groups? read)⟩
      rw [List.count_append, List.count_cons_self, List.count_eq_zero.2 clear] at parts
      exact List.count_pos_iff.1 (by omega)
  | some found =>
    obtain ⟨before, after⟩ := found
    simp only [split] at h
    obtain ⟨head, -, h⟩ := Option.bind_eq_some_iff.1 h
    obtain ⟨tail, read, -⟩ := Option.bind_eq_some_iff.1 h
    rw [eq_of_splitDoubleColon split]
    cases cut : splitLast ':' after with
    | none =>
      have clear := splitLast_eq_none_iff.1 cut
      -- No colon is behind the double one, so its second colon is the last.
      refine ⟨before ++ [':'], after, by simp, by simp, clear, ?_⟩
      by_cases nothing : after = []
      · exact .inl nothing
      · rw [side?_of_some nothing, fields_of_clear clear, ← List.nil_append [after]] at read
        exact .inr (last_of_groups? read)
    | some found =>
      obtain ⟨between, last⟩ := found
      obtain ⟨rfl, clear⟩ := splitLast_eq_some_iff.1 cut
      refine ⟨before ++ ':' :: ':' :: between, last, by simp, by simp, clear, .inr ?_⟩
      rw [side?_of_some (by simp), fields_concat between clear] at read
      exact last_of_groups? read

end DatagramTunnel.Ipv6
