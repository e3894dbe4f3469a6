import FederatedCatalog.Proofs.JsonNumber

namespace FederatedCatalog.Json

/-- Whether every number inside a value is as it is written. -/
inductive Canonical : Json → Prop
  | null : Canonical .null
  | bool (value : Bool) : Canonical (.bool value)
  | number {numeral : Numeral} (canonical : numeral.Canonical) : Canonical (.number numeral)
  | string (value? : Option String) : Canonical (.string value?)
  | array {items : List Json} (canonical : ∀ item ∈ items, Canonical item) :
    Canonical (.array items)
  | object {members : List (Option String × Json)}
    (canonical : ∀ member ∈ members, Canonical member.2) : Canonical (.object members)

theorem hexDigit?_digitChar : ∀ d < 16, hexDigit? (Nat.digitChar d) = some d := by decide

/-- Whether a piece of a string stands for a character. -/
def Piece.Spells (c : Char) : Piece → Prop
  | .char d => d = c
  | .code n => n = c.toNat ∧ n < 0x20

theorem joinPieces_cons {c : Char} {piece : Piece} (spells : piece.Spells c) (rest : List Piece) :
    joinPieces (piece :: rest) = (joinPieces rest).map (c :: ·) := by
  cases piece with
  | char d =>
    obtain rfl : d = c := spells
    rfl
  | code n =>
    obtain ⟨rfl, low⟩ := spells
    have hhigh : isHighSurrogate c.toNat = false := by simp [isHighSurrogate]; omega
    have hlow : isLowSurrogate c.toNat = false := by simp [isLowSurrogate]; omega
    match rest with
    | [] => simp [joinPieces, hhigh, hlow, Char.ofNat_toNat]
    | .char d :: rest => simp [joinPieces, hhigh, hlow, Char.ofNat_toNat]
    | .code m :: rest => simp [joinPieces, hhigh, hlow, Char.ofNat_toNat]

theorem readPieces_plain {c : Char} (quote : c ≠ '"') (slash : c ≠ '\\') (high : ¬c.toNat < 0x20)
    (s : List Char) :
    readPieces (c :: s) = (readPieces s).map fun (pieces, rest) => (.char c :: pieces, rest) := by
  rw [readPieces.eq_def]
  split
  next h => cases h
  next h => exact absurd (List.head_eq_of_cons_eq h) quote
  next h => exact absurd (List.head_eq_of_cons_eq h) slash
  next h => exact absurd (List.head_eq_of_cons_eq h) slash
  next h =>
    cases h
    rw [if_neg (by simp [high, slash])]

theorem readPieces_code {c : Char} (low : c.toNat < 0x20) (s : List Char) :
    readPieces (['\\', 'u', '0', '0', Nat.digitChar (c.toNat / 16),
      Nat.digitChar (c.toNat % 16)] ++ s) =
      (readPieces s).map fun (pieces, rest) => (.code c.toNat :: pieces, rest) := by
  have first : hexDigit? (Nat.digitChar (c.toNat / 16)) = some (c.toNat / 16) :=
    hexDigit?_digitChar _ (by omega)
  have second : hexDigit? (Nat.digitChar (c.toNat % 16)) = some (c.toNat % 16) :=
    hexDigit?_digitChar _ (by omega)
  have zero : hexDigit? '0' = some 0 := rfl
  have sum : ((0 * 16 + 0) * 16 + c.toNat / 16) * 16 + c.toNat % 16 = c.toNat := by omega
  have code : hexCode? '0' '0' (Nat.digitChar (c.toNat / 16)) (Nat.digitChar (c.toNat % 16)) =
      some c.toNat := by
    simp only [hexCode?, zero, first, second, Option.bind_eq_bind, Option.bind_some, sum]
    rfl
  show readPieces ('\\' :: 'u' :: '0' :: '0' :: _ :: _ :: s) = _
  simp only [readPieces, code]

theorem readPieces_writeChar (c : Char) : ∃ piece : Piece, piece.Spells c ∧ ∀ s,
    readPieces (writeChar c ++ s) =
      (readPieces s).map fun (pieces, rest) => (piece :: pieces, rest) := by
  unfold writeChar
  split
  next h =>
    refine ⟨.char c, rfl, fun s => ?_⟩
    rcases h with rfl | rfl <;> rfl
  next marks =>
    rw [not_or] at marks
    iterate 5
      split
      next h => exact ⟨.char c, rfl, fun s => by subst h; rfl⟩
    split
    next low => exact ⟨.code c.toNat, ⟨rfl, low⟩, readPieces_code low⟩
    next high => exact ⟨.char c, rfl, readPieces_plain marks.1 marks.2 high⟩

theorem readPieces_writeChars (chars : List Char) : ∃ pieces, joinPieces pieces = some chars ∧
    ∀ rest, readPieces (chars.flatMap writeChar ++ '"' :: rest) = some (pieces, rest) := by
  induction chars with
  | nil => exact ⟨[], rfl, fun rest => rfl⟩
  | cons c chars ih =>
    obtain ⟨pieces, join, reads⟩ := ih
    obtain ⟨piece, spells, first⟩ := readPieces_writeChar c
    refine ⟨piece :: pieces, ?_, fun rest => ?_⟩
    · rw [joinPieces_cons spells, join]
      rfl
    · rw [List.flatMap_cons, List.append_assoc, first, reads]
      rfl

theorem readString_write (value? : Option String) : ∃ chars, writeString value? = '"' :: chars ∧
    ∀ rest, readString (chars ++ rest) = some (value?, rest) := by
  cases value? with
  | none => exact ⟨_, rfl, fun rest => rfl⟩
  | some s =>
    obtain ⟨pieces, join, reads⟩ := readPieces_writeChars s.toList
    refine ⟨s.toList.flatMap writeChar ++ ['"'], rfl, fun rest => ?_⟩
    rw [List.append_assoc, readString]
    simp only [List.singleton_append, reads, join, Option.map_some, String.ofList_toList]

theorem readName_write (name? : Option String) (rest : List Char) :
    readName (writeString name? ++ ':' :: rest) = some (name?, rest) := by
  obtain ⟨chars, written, reads⟩ := readString_write name?
  have quote : skipBlanks ('"' :: (chars ++ ':' :: rest)) = '"' :: (chars ++ ':' :: rest) := rfl
  rw [written, readName, List.cons_append, quote]
  simp only [reads, Option.bind_some]
  rfl

theorem isBlank_digitChar : ∀ d < 10, isBlank (Nat.digitChar d) = false := by decide

theorem skipBlanks_cons {c : Char} (h : isBlank c = false) (s : List Char) :
    skipBlanks (c :: s) = c :: s :=
  List.dropWhile_cons_of_neg (by simp [h])

theorem writeNumber_eq_cons {numeral : Numeral} (canonical : numeral.Canonical) :
    ∃ c s, writeNumber numeral = c :: s ∧ (c = '-' ∨ ∃ d < 10, c = Nat.digitChar d) := by
  rw [writeNumber_eq]
  cases numeral.negative with
  | true => exact ⟨_, _, rfl, .inl rfl⟩
  | false =>
    obtain ⟨d, hd, s, eq⟩ := writeDigits_eq_cons canonical.whole
    rw [eq]
    exact ⟨_, _, rfl, .inr ⟨d, hd, rfl⟩⟩

theorem writeValue_eq_cons {json : Json} (canonical : json.Canonical) :
    ∃ c s, writeValue json = c :: s ∧ isBlank c = false ∧ c ≠ ']' := by
  cases canonical with
  | null => exact ⟨_, _, rfl, rfl, by decide⟩
  | bool value => cases value <;> exact ⟨_, _, rfl, rfl, by decide⟩
  | number canonical =>
    obtain ⟨c, s, written, rfl | ⟨d, hd, rfl⟩⟩ := writeNumber_eq_cons canonical
    · exact ⟨_, s, written, rfl, by decide⟩
    · exact ⟨_, s, written, isBlank_digitChar d hd, digitChar_ne hd rfl⟩
  | string value? =>
    obtain ⟨chars, written, _⟩ := readString_write value?
    exact ⟨_, chars, written, rfl, by decide⟩
  | @array items _ => cases items <;> exact ⟨_, _, rfl, rfl, by decide⟩
  | @object members _ => cases members <;> exact ⟨_, _, rfl, rfl, by decide⟩

theorem ends_writeItems (items : List Json) (rest : List Char) :
    EndsNumber (writeItems items ++ rest) := by
  intro c hc
  cases items with
  | nil =>
    obtain rfl : ']' = c := Option.some.inj hc
    decide
  | cons item items =>
    obtain rfl : ',' = c := Option.some.inj hc
    decide

theorem ends_writeMembers (members : List (Option String × Json)) (rest : List Char) :
    EndsNumber (writeMembers members ++ rest) := by
  intro c hc
  cases members with
  | nil =>
    obtain rfl : '\x7d' = c := Option.some.inj hc
    decide
  | cons member members =>
    obtain rfl : ',' = c := Option.some.inj hc
    decide

section Values

variable {fuel : Nat} {s after rest : List Char}

theorem readValue_digit {d : Nat} (hd : d < 10) : readValue (fuel + 1) (Nat.digitChar d :: s) =
    (readNumber (Nat.digitChar d :: s)).map fun (numeral, s) => (.number numeral, s) := by
  rw [readValue.eq_def]
  rcases d with _ | _ | _ | _ | _ | _ | _ | _ | _ | _ | d
  all_goals first | rfl | omega

theorem readValue_minus : readValue (fuel + 1) ('-' :: s) =
    (readNumber ('-' :: s)).map fun (numeral, s) => (.number numeral, s) := by
  rw [readValue.eq_def]
  rfl

theorem readValue_number {numeral : Numeral} (canonical : numeral.Canonical)
    (ends : EndsNumber rest) :
    readValue (fuel + 1) (writeNumber numeral ++ rest) = some (.number numeral, rest) := by
  have reads := readNumber_write canonical ends
  obtain ⟨c, s, written, rfl | ⟨d, hd, rfl⟩⟩ := writeNumber_eq_cons canonical
  · rw [written, List.cons_append] at reads ⊢
    rw [readValue_minus, reads]
    rfl
  · rw [written, List.cons_append] at reads ⊢
    rw [readValue_digit hd, reads]
    rfl

theorem readValue_string {value? : Option String} :
    readValue (fuel + 1) (writeString value? ++ rest) = some (.string value?, rest) := by
  obtain ⟨chars, written, reads⟩ := readString_write value?
  rw [written]
  show (readString (chars ++ rest)).map _ = _
  rw [reads]
  rfl

theorem readValue_array {item : Json} {items : List Json} {c : Char} (blank : isBlank c = false)
    (bracket : c ≠ ']') (first : readValue fuel (c :: s) = some (item, after))
    (others : readItems fuel after = some (items, rest)) :
    readValue (fuel + 1) ('[' :: c :: s) = some (.array (item :: items), rest) := by
  have outer : skipBlanks ('[' :: c :: s) = '[' :: c :: s := rfl
  rw [readValue.eq_def]
  simp only [outer, skipBlanks_cons blank]
  split
  next h => exact absurd (List.head_eq_of_cons_eq h) bracket
  next => simp only [first, others, Option.map_some]

theorem readValue_object {name? : Option String} {value : Json}
    {members : List (Option String × Json)} {colon : List Char}
    (name : readName ('"' :: s) = some (name?, colon))
    (first : readValue fuel colon = some (value, after))
    (others : readMembers fuel after = some (members, rest)) :
    readValue (fuel + 1) ('\x7b' :: '"' :: s) =
      some (.object ((name?, value) :: members), rest) := by
  have outer : skipBlanks ('\x7b' :: '"' :: s) = '\x7b' :: '"' :: s := rfl
  have inner : skipBlanks ('"' :: s) = '"' :: s := rfl
  rw [readValue.eq_def]
  simp only [outer, inner]
  split
  next h => exact absurd (List.head_eq_of_cons_eq h) (by decide)
  next => simp only [name, first, others, Option.map_some]

end Values

/-- A value is read back from its text, whatever follows, if no number goes on there. -/
def Reads (json : Json) : Prop :=
  ∀ fuel rest, (writeValue json).length ≤ fuel → EndsNumber rest →
    readValue (fuel + 1) (writeValue json ++ rest) = some (json, rest)

theorem Reads.of_lt {json : Json} (reads : json.Reads) (fuel : Nat) {rest : List Char}
    (room : (writeValue json).length < fuel) (ends : EndsNumber rest) :
    readValue fuel (writeValue json ++ rest) = some (json, rest) := by
  obtain ⟨fuel, rfl⟩ := Nat.exists_eq_add_one_of_ne_zero (Nat.ne_zero_of_lt room)
  exact reads fuel rest (Nat.le_of_lt_succ room) ends

theorem readItems_write {items : List Json} (reads : ∀ item ∈ items, item.Reads) (fuel : Nat)
    (rest : List Char) (room : (writeItems items).length < fuel) :
    readItems fuel (writeItems items ++ rest) = some (items, rest) := by
  induction items generalizing fuel with
  | nil =>
    obtain ⟨fuel, rfl⟩ := Nat.exists_eq_add_one_of_ne_zero (Nat.ne_zero_of_lt room)
    rfl
  | cons item items ih =>
    obtain ⟨fuel, rfl⟩ := Nat.exists_eq_add_one_of_ne_zero (Nat.ne_zero_of_lt room)
    obtain ⟨readsFirst, readsOthers⟩ := List.forall_mem_cons.mp reads
    simp only [writeItems, List.length_cons, List.length_append] at room
    have first := readsFirst.of_lt fuel (by omega) (ends_writeItems items rest)
    have others := ih readsOthers fuel (by omega)
    have comma (s : List Char) : skipBlanks (',' :: s) = ',' :: s := rfl
    have text : writeItems (item :: items) ++ rest =
        ',' :: (writeValue item ++ (writeItems items ++ rest)) := by
      simp [writeItems]
    rw [text, readItems]
    simp only [comma, first, others, Option.map_some]

theorem readMembers_write {members : List (Option String × Json)}
    (reads : ∀ member ∈ members, member.2.Reads) (fuel : Nat) (rest : List Char)
    (room : (writeMembers members).length < fuel) :
    readMembers fuel (writeMembers members ++ rest) = some (members, rest) := by
  induction members generalizing fuel with
  | nil =>
    obtain ⟨fuel, rfl⟩ := Nat.exists_eq_add_one_of_ne_zero (Nat.ne_zero_of_lt room)
    rfl
  | cons member members ih =>
    obtain ⟨fuel, rfl⟩ := Nat.exists_eq_add_one_of_ne_zero (Nat.ne_zero_of_lt room)
    obtain ⟨name?, value⟩ := member
    have readsFirst : value.Reads := reads _ List.mem_cons_self
    have readsOthers := fun member hm => reads member (List.mem_cons_of_mem _ hm)
    simp only [writeMembers, List.cons_append, List.length_cons, List.length_append] at room
    have name := readName_write name? (writeValue value ++ (writeMembers members ++ rest))
    have first := readsFirst.of_lt fuel (by omega) (ends_writeMembers members rest)
    have others := ih readsOthers fuel (by omega)
    have comma (s : List Char) : skipBlanks (',' :: s) = ',' :: s := rfl
    have text : writeMembers ((name?, value) :: members) ++ rest = ',' ::
        (writeString name? ++ ':' :: (writeValue value ++ (writeMembers members ++ rest))) := by
      simp [writeMembers]
    rw [text, readMembers]
    simp only [comma, name, first, others, Option.map_some]

section Nested

variable {fuel : Nat} {rest : List Char}

theorem readValue_items {item : Json} {items : List Json} (canonical : item.Canonical)
    (reads : item.Reads) (others : ∀ item ∈ items, item.Reads)
    (room : (writeValue (.array (item :: items))).length ≤ fuel) :
    readValue (fuel + 1) (writeValue (.array (item :: items)) ++ rest) =
      some (.array (item :: items), rest) := by
  simp only [writeValue, List.cons_append, List.length_cons, List.length_append] at room
  have first := reads.of_lt fuel (by omega) (ends_writeItems items rest)
  have last := readItems_write others fuel rest (by omega)
  obtain ⟨c, s, written, blank, bracket⟩ := writeValue_eq_cons canonical
  have text : writeValue (.array (item :: items)) ++ rest =
      '[' :: c :: (s ++ (writeItems items ++ rest)) := by
    simp [writeValue, written]
  rw [written] at first
  rw [text]
  exact readValue_array blank bracket first last

theorem readValue_members {name? : Option String} {value : Json}
    {members : List (Option String × Json)} (reads : value.Reads)
    (others : ∀ member ∈ members, member.2.Reads)
    (room : (writeValue (.object ((name?, value) :: members))).length ≤ fuel) :
    readValue (fuel + 1) (writeValue (.object ((name?, value) :: members)) ++ rest) =
      some (.object ((name?, value) :: members), rest) := by
  simp only [writeValue, List.cons_append, List.length_cons, List.length_append] at room
  have name := readName_write name? (writeValue value ++ (writeMembers members ++ rest))
  have first := reads.of_lt fuel (by omega) (ends_writeMembers members rest)
  have last := readMembers_write others fuel rest (by omega)
  obtain ⟨chars, written, _⟩ := readString_write name?
  have text : writeValue (.object ((name?, value) :: members)) ++ rest = '\x7b' :: '"' ::
      (chars ++ ':' :: (writeValue value ++ (writeMembers members ++ rest))) := by
    simp [writeValue, written]
  rw [written] at name
  rw [text]
  exact readValue_object name first last

end Nested

theorem Canonical.reads {json : Json} (canonical : json.Canonical) : json.Reads := by
  induction canonical with
  | null => exact fun fuel rest _ _ => rfl
  | bool value =>
    intro fuel rest _ _
    cases value <;> rfl
  | number canonical => exact fun fuel rest _ ends => readValue_number canonical ends
  | string value? => exact fun fuel rest _ _ => readValue_string
  | @array items canonical ih =>
    intro fuel rest room _
    cases items with
    | nil => rfl
    | cons item items =>
      obtain ⟨reads, others⟩ := List.forall_mem_cons.mp ih
      exact readValue_items (canonical item List.mem_cons_self) reads others room
  | @object members canonical ih =>
    intro fuel rest room _
    cases members with
    | nil => rfl
    | cons member members =>
      obtain ⟨reads, others⟩ := List.forall_mem_cons.mp ih
      exact readValue_members reads others room

theorem read_write {json : Json} (canonical : json.Canonical) : read (write json) = some json := by
  have ends : EndsNumber [] := by
    intro c hc
    cases hc
  have reads := canonical.reads (writeValue json).length [] Nat.le.refl ends
  rw [List.append_nil] at reads
  unfold read write
  simp only [String.toList_ofList, reads]
  rfl

end FederatedCatalog.Json
