import DatagramTunnel.Proofs.Yaml.Quoted
import DatagramTunnel.Yaml.Document

/-!
# A quoted text is a document of its own

A text that is written as a quoted scalar is a well-formed YAML document with one node, which is
this scalar: `Document.ofText_quote`. What the source of tokens holds at each stage is told by
`behindQuoted` and `Single`; the events, and with them the document, follow from four looks at the
next token (`Document.ofText_of_scalar`).
-/

namespace DatagramTunnel.Yaml

open Text.Yaml (quote)

variable {text : List Char}

/-! ## Tokens -/

namespace TokenSource

variable {s : TokenSource} {token : Placed Token} {later : List (Placed Token)}

/-- Where no candidate is stale, none is given up. -/
theorem dropStale_of_fresh (fresh : freshen s.cursor s.candidate = some s.candidate)
    (flat : s.candidates = []) : s.dropStale = some s := by
  simp only [dropStale, fresh, flat]
  obtain ⟨cursor, whole, queue, passed, indent, outer, keyAllowed, candidate, candidates⟩ := s
  obtain rfl : candidates = [] := flat
  rfl

/-- Where nothing is in the queue, one token is read. -/
theorem settle_of_unread (unread : s.queue = []) {s' : TokenSource} (read : s.readNext = some s')
    (fuel : Nat) : settle (fuel + 1) s = settle fuel s' := by
  simp [settle, unread, read]

/-- As long as the first token may start a key, another one is read. -/
theorem settle_of_undecided (queue : s.queue = token :: later) {s' s'' : TokenSource}
    (fresh : s.dropStale = some s') (undecided : s'.undecided = true)
    (read : s'.readNext = some s'') (fuel : Nat) : settle (fuel + 1) s = settle fuel s'' := by
  simp [settle, queue, fresh, undecided, read]

/-- The first token is decided once no candidate is left. -/
theorem settle_of_decided (queue : s.queue = token :: later) {s' : TokenSource}
    (fresh : s.dropStale = some s') (decided : s'.candidate = none) (flat : s'.candidates = [])
    (fuel : Nat) : settle (fuel + 1) s = some s' := by
  simp [settle, queue, fresh, undecided, decided, flat]

/-- A first token that is decided can be looked at again and again. -/
theorem peek_of_decided (queue : s.queue = token :: later) (decided : s.candidate = none)
    (flat : s.candidates = []) : s.peek = some (token, s) := by
  have fresh := dropStale_of_fresh (s := s) (by rw [decided]; rfl) flat
  rw [peek, settle_of_decided queue fresh decided flat]
  simp [queue]

/-- Outside of all block collections none is ended. -/
theorem unroll_of_outermost (outer : s.outer = []) (column : Int) : unroll column s = s := by
  rw [unroll, outer, unroll.go]
  exact ite_self s

/-- There is nothing to skip at a quote or at the end of a text. -/
theorem skipBlanks_of_stop (stops : ∀ char ∈ s.cursor.rest.head?, char = '"') (fuel : Nat) :
    skipBlanks (fuel + 1) s = s := by
  obtain ⟨⟨rest, index, line, column⟩, whole, queue, passed, indent, outer, keyAllowed, candidate,
    candidates⟩ := s
  cases rest with
  | nil => simp [skipBlanks, Cursor.has, Cursor.at?, Cursor.skipWhile, Cursor.takeWhile,
      Cursor.skip, Cursor.onBreak]
  | cons char more =>
    obtain rfl := stops char rfl
    simp [skipBlanks, Cursor.has, Cursor.at?, Cursor.skipWhile, Cursor.takeWhile,
      Cursor.skip, Cursor.onBreak, isBreak, byteOrderMark]

/-- Where there is nothing to skip and no block collection to end, the token that stands there is
the next one. -/
theorem readNext_of_stop (stops : ∀ char ∈ s.cursor.rest.head?, char = '"')
    (fresh : freshen s.cursor s.candidate = some s.candidate) (flat : s.candidates = [])
    (outer : s.outer = []) (whole : s.whole = true) {s' : TokenSource} (here : s.readHere = some s')
    (whole' : s'.whole = true) : s.readNext = some s' := by
  rw [readNext, skipBlanks_of_stop stops]
  simp [dropStale_of_fresh fresh flat, whole, unroll_of_outermost outer, here, whole']

/-- A source at the end of a line that is the last one, outside of all collections. -/
structure AtEnd (s : TokenSource) : Prop where
  rest : s.cursor.rest = []
  inside : s.cursor.column ≠ 0
  flat : s.candidates = []
  outer : s.outer = []
  whole : s.whole = true

/-- What is read at the end of a text, whether or not the node in front of it may have started a
key. -/
theorem AtEnd.readNext_eq (ended : s.AtEnd)
    (fresh : freshen s.cursor s.candidate = some s.candidate)
    (free : s.candidate.any (·.required) = false) :
    s.readNext = some { s with
      cursor := { s.cursor with column := 0, line := s.cursor.line + 1 }
      queue := s.queue ++ [⟨.streamEnd, ⟨s.cursor.line + 1, 0⟩⟩]
      candidate := none
      keyAllowed := false } := by
  obtain ⟨rest, inside, flat, outer, whole⟩ := ended
  have at_end : s.cursor.at? 0 = none := by rw [Cursor.at?, rest]; rfl
  have here : s.readHere = s.readEnd := by rw [readHere, at_end]
  have unrolled (c : Cursor) : unroll (-1) { s with cursor := c } = { s with cursor := c } :=
    unroll_of_outermost (s := { s with cursor := c }) outer (-1)
  refine readNext_of_stop (by simp [rest]) fresh flat outer whole (here.trans ?_) whole
  simp [readEnd, inside, unrolled, dropCandidate, free, push, Cursor.position]

/-- The scalar of a quoted text that starts where the source does. -/
def quoted (text : List Char) : Placed Token := ⟨.scalar text .doubleQuoted, {}⟩

/-- What a source has read of a quoted text that is all there is: the scalar, which may be a key. -/
def behindQuoted (text : List Char) : TokenSource where
  cursor := { rest := [], index := (quote text).length, column := (quote text).length }
  queue := [quoted text]
  keyAllowed := false
  candidate := some ⟨0, 0, {}, false⟩

theorem behindQuoted_atEnd (text : List Char) : (behindQuoted text).AtEnd where
  rest := rfl
  inside := by simp [behindQuoted, quote]
  flat := rfl
  outer := rfl
  whole := rfl

/-- The source of a quoted text starts at its opening quote. -/
theorem ofText_quote (text : List Char) :
    ofText (quote text) = { cursor := { rest := quote text } } := by
  rw [ofText, readableStart_quote]

/-- At a double quote a quoted scalar is read. -/
theorem readHere_of_quote (first : s.cursor.at? 0 = some '"') :
    s.readHere = s.readQuoted .doubleQuoted := by
  have no_mark {char : Char} (other : char ≠ '"') : s.cursor.onMark char = false := by
    have differs : ('"' == char) = false := beq_false_of_ne other.symm
    simp [Cursor.onMark, Cursor.has, first, differs]
  simp [readHere, first, no_mark]

/-- **The scalar is read first.** -/
theorem readNext_quote (text : List Char) :
    (ofText (quote text)).readNext = some (behindQuoted text) := by
  rw [ofText_quote]
  refine readNext_of_stop ?_ rfl rfl rfl rfl ?_ rfl
  · simp [quote]
  · have scalar : quotedText false { rest := quote text } =
        some (text, Cursor.skip { rest := quote text } (quote text).length) :=
      quotedText_quote (List.append_nil (quote text)).symm
    have style : (ScalarStyle.doubleQuoted == .singleQuoted) = false := rfl
    rw [readHere_of_quote rfl, readQuoted, style]
    simp [saveCandidate, dropCandidate, scalar, behindQuoted, quoted, push, inFlow,
      Cursor.position, Cursor.skip]

/-! A text that is short enough may turn out to be a key, until the end is seen behind it. So the
end may be in the queue when the scalar is handed out, or not yet. -/

/-- The scalar of a quoted text is the next token, and just the end is to come. -/
structure Single (token : Placed Token) (s : TokenSource) : Prop where
  decided : s.candidate = none
  flat : s.candidates = []
  ends : (∃ place, s.queue = [token, ⟨.streamEnd, place⟩]) ∨ s.queue = [token] ∧ s.AtEnd

/-- **The scalar of a quoted text is its first token.** -/
theorem peek_quote (text : List Char) :
    ∃ s, (ofText (quote text)).peek = some (quoted text, s) ∧ Single (quoted text) s := by
  have at_end := behindQuoted_atEnd text
  have unread : (ofText (quote text)).queue = [] := by rw [ofText_quote]
  have settled (fuel : Nat) :
      ∃ s, settle (fuel + 3) (ofText (quote text)) = some s ∧ s.queue.head? = some (quoted text) ∧
        Single (quoted text) s := by
    rw [settle_of_unread unread (readNext_quote text)]
    by_cases long : maxKeyLength < (quote text).length
    · -- The candidate is stale, and given up.
      have stale :
          freshen (behindQuoted text).cursor (behindQuoted text).candidate = some none := by
        simp [freshen, behindQuoted, isStale, Nat.not_le.2 long]
      have given_up : (behindQuoted text).dropStale =
          some { behindQuoted text with candidate := none } := by
        rw [dropStale, stale]
        rfl
      exact ⟨_, settle_of_decided rfl given_up rfl rfl _, rfl, rfl, rfl,
        .inr ⟨rfl, at_end.rest, at_end.inside, rfl, rfl, rfl⟩⟩
    · -- The candidate holds the scalar back, until the end has been read.
      have fresh : freshen (behindQuoted text).cursor (behindQuoted text).candidate =
          some (behindQuoted text).candidate := by
        simp [freshen, behindQuoted, isStale, Nat.not_lt.1 long]
      rw [settle_of_undecided rfl (dropStale_of_fresh fresh rfl) rfl (at_end.readNext_eq fresh rfl)]
      exact ⟨_, settle_of_decided rfl (dropStale_of_fresh rfl rfl) rfl rfl _, rfl, rfl, rfl,
        .inl ⟨_, rfl⟩⟩
  obtain ⟨s, settled, first, single⟩ := settled (2 * (ofText (quote text)).cursor.rest.length + 1)
  refine ⟨s, ?_, single⟩
  rw [peek, settled]
  simp [first]

/-- The scalar can be looked at. -/
theorem Single.peek_eq (single : Single token s) : s.peek = some (token, s) := by
  obtain ⟨decided, flat, ⟨place, queue⟩ | ⟨queue, -⟩⟩ := single
  · exact peek_of_decided queue decided flat
  · exact peek_of_decided queue decided flat

/-- **Behind the scalar comes the end.** -/
theorem Single.peek_next (single : Single token s) :
    ∃ t place, s.next.peek = some (⟨.streamEnd, place⟩, t) ∧
      t.peek = some (⟨.streamEnd, place⟩, t) := by
  obtain ⟨decided, flat, ⟨place, queue⟩ | ⟨queue, at_end⟩⟩ := single
  · -- The end was read while the scalar might have been a key.
    have left : s.next.queue = [⟨.streamEnd, place⟩] := by rw [next, queue]; rfl
    have once : s.next.peek = _ := peek_of_decided left decided flat
    exact ⟨s.next, place, once, once⟩
  · -- The end is read now, and the queue holds nothing else.
    have left : s.next.queue = [] := by rw [next, queue]; rfl
    have fresh : freshen s.next.cursor s.next.candidate = some s.next.candidate := by
      rw [next, decided]
      rfl
    have free : s.next.candidate.any (·.required) = false := by rw [next, decided]; rfl
    have at_end : s.next.AtEnd := ⟨at_end.rest, at_end.inside, flat, at_end.outer, at_end.whole⟩
    have read := at_end.readNext_eq fresh free
    rw [left, List.nil_append] at read
    obtain ⟨t, read, queue, decided, flat⟩ : ∃ t, s.next.readNext = some t ∧
        t.queue = [⟨.streamEnd, ⟨s.next.cursor.line + 1, 0⟩⟩] ∧ t.candidate = none ∧
        t.candidates = [] := ⟨_, read, rfl, rfl, flat⟩
    have once : t.peek = _ := peek_of_decided queue decided flat
    have fresh : t.dropStale = some t := dropStale_of_fresh (by rw [decided]; rfl) flat
    refine ⟨t, _, ?_, once⟩
    rw [peek, settle_of_unread left read, settle_of_decided queue fresh decided flat]
    simp [queue]

end TokenSource

/-! ## Documents -/

/-- **A document of one scalar**: the tokens are the scalar and the end of the text. -/
theorem Document.ofText_of_scalar {value : List Char} {style : ScalarStyle}
    {start place : Position} {s t : TokenSource}
    (first : (TokenSource.ofText text).peek = some (⟨.scalar value style, start⟩, s))
    (again : s.peek = some (⟨.scalar value style, start⟩, s))
    (ended : s.next.peek = some (⟨.streamEnd, place⟩, t))
    (ended_again : t.peek = some (⟨.streamEnd, place⟩, t)) :
    Document.ofText text = ⟨[⟨.node (.scalar ⟨value, style, none⟩), start⟩], {}, true⟩ := by
  have opens : EventSource.next { tokens := TokenSource.ofText text } =
      some (⟨.documentStart, start⟩,
        { tokens := s, expects := .blockNode, pending := [.documentEnd] }) := by
    simp [EventSource.next, EventSource.documentStart, EventSource.peek, first,
      EventSource.later, EventSource.expecting]
  have holds : EventSource.next { tokens := s, expects := .blockNode, pending := [.documentEnd] } =
      some (⟨.scalar none ⟨value, style, none⟩, start⟩,
        { tokens := s.next, expects := .documentEnd }) := by
    simp [EventSource.next, EventSource.node, EventSource.peek, again, EventSource.properties,
      EventSource.takeAnchor, EventSource.takeTag, EventSource.fullTag, EventSource.take,
      EventSource.resume]
  have closes : EventSource.next { tokens := s.next, expects := .documentEnd } =
      some (⟨.documentEnd, place⟩, { tokens := t, expects := .document }) := by
    simp [EventSource.next, EventSource.documentEnd, EventSource.peek, ended,
      EventSource.expecting]
  have ends : EventSource.next { tokens := t, expects := .document } =
      some (⟨.streamEnd, place⟩, { tokens := t.next, expects := .nothing }) := by
    simp [EventSource.next, EventSource.documentStart, EventSource.peek, ended_again,
      EventSource.tokensLeft, EventSource.skipDocumentEnds, EventSource.take,
      EventSource.expecting]
  obtain ⟨fuel, enough⟩ : ∃ fuel, fuelFor text = fuel + 2 :=
    ⟨16 * text.length + 62, by rw [fuelFor]⟩
  -- A rewrite with the definition would take too long to find its equations.
  unfold Document.ofText
  rw [opens, enough]
  simp [collect, holds, itemOf?, itemOf?.noted, Anchors.note, closes, nothingFollows, ends]

/-- **A quoted text is a document of its own**: its node is the scalar, whose value is the text. -/
theorem Document.ofText_quote (text : List Char) :
    Document.ofText (quote text) =
      ⟨[⟨.node (.scalar ⟨text, .doubleQuoted, none⟩), {}⟩], {}, true⟩ := by
  obtain ⟨s, first, single⟩ := TokenSource.peek_quote text
  obtain ⟨t, place, ended, ended_again⟩ := single.peek_next
  exact ofText_of_scalar first single.peek_eq ended ended_again

end DatagramTunnel.Yaml
