import FederatedCatalog.Proofs.PathGrammar

namespace FederatedCatalog

namespace Path

/-- A text that is read as a path. -/
def Accepted (s : List Char) : Prop :=
  ∃ path, parse (String.ofList s) = .ok path

/-- A text behind which a segment begins: nothing, or a path with a dot behind it. -/
def Opens (s : List Char) : Prop :=
  s = [] ∨ ∃ front, s = front ++ ['.'] ∧ Accepted front

end Path

/-- What an error says of a text that falls into two parts at the place that the error names. -/
def PathError.Blames (before after : List Char) : PathError → Prop
  | .empty => False
  | .emptySegment _ =>
    Path.Opens before ∧ ∀ c ∈ after.takeWhile (· ≠ '.'), Text.isBlank c = true
  | .unterminated _ => after.head? = some Path.tick ∧ Path.Opens before ∧
    Path.Accepted (before ++ after ++ [Path.tick])
  | .unexpected _ found => after.head? = some found ∧ (∃ tail, Path.Accepted (before ++ tail)) ∧
    ∀ tail, ¬Path.Accepted (before ++ found :: tail)

namespace Path

theorem accepted_iff {s : List Char} : Accepted s ↔ ∃ names, Spells s names := by
  constructor
  · rintro ⟨path, h⟩
    have spells := spells_of_parse h
    rw [String.toList_ofList] at spells
    exact ⟨path.segments, spells⟩
  · rintro ⟨names, spells⟩
    obtain ⟨path, _, rfl⟩ := spells.read 0
    exact ⟨path, parse_of_spells (by rwa [String.toList_ofList])⟩

theorem byteSize_append (first second : List Char) :
    byteSize (first ++ second) = byteSize first + byteSize second := by
  induction first with
  | nil => simp [byteSize]
  | cons c first ih =>
    simp only [byteSize, List.cons_append, List.foldr_cons] at ih ⊢
    rw [ih, Nat.add_assoc]

theorem byteSize_eq_utf8ByteSize (s : List Char) :
    byteSize s = (String.ofList s).utf8ByteSize := by
  induction s with
  | nil => rfl
  | cons c s ih =>
    rw [String.ofList_cons, String.utf8ByteSize_append, ← ih]
    simp [byteSize]

section Segments

variable {size : Nat} {s front name rest : List Char}

theorem doubled_of_quotedBody_none (h : quotedBody s = none) : ∃ name, Doubled s name := by
  fun_induction quotedBody s with
  | case1 => exact ⟨[], .nil⟩
  | case2 s ih =>
    obtain ⟨name, doubled⟩ := ih (Option.map_eq_none_iff.mp h)
    exact ⟨tick :: name, .mark doubled⟩
  | case3 => cases h
  | case4 c s _ unmarked ih =>
    obtain ⟨name, doubled⟩ := ih (Option.map_eq_none_iff.mp h)
    exact ⟨c :: name, .other unmarked doubled⟩

theorem quotedBody_unmarked (h : quotedBody s = some (name, rest)) : rest.head? ≠ some tick := by
  fun_induction quotedBody s generalizing name with
  | case1 => cases h
  | case2 s ih =>
    obtain ⟨⟨inner, after⟩, hs, eq⟩ := Option.map_eq_some_iff.mp h
    cases eq
    exact ih hs
  | case3 s unmarked =>
    cases h
    cases rest with
    | nil => simp
    | cons c t => simpa using fun eq => unmarked t (by rw [eq])
  | case4 c s _ _ ih =>
    obtain ⟨⟨inner, after⟩, hs, eq⟩ := Option.map_eq_some_iff.mp h
    cases eq
    exact ih hs

theorem Accepted.readSegment (accepted : Accepted s) (size : Nat) : ∃ name rest,
    readSegment size s = .ok (name, rest) ∧
      (rest = [] ∨ ∃ following, rest = '.' :: following ∧ Accepted following) := by
  obtain ⟨names, spells⟩ := accepted_iff.mp accepted
  cases spells with
  | @last _ name segment =>
    have hread : Path.readSegment size (s ++ []) = .ok (name, []) := segment.read size (by simp)
    rw [List.append_nil] at hread
    exact ⟨name, [], hread, .inl rfl⟩
  | @more text name rest names segment following =>
    exact ⟨name, '.' :: rest, segment.read size (by simp),
      .inr ⟨rest, rfl, accepted_iff.mpr ⟨names, following⟩⟩⟩

theorem Segment.accepted_behind {text : List Char} (segment : Segment text name)
    (accepted : Accepted (text ++ '.' :: s)) : Accepted s := by
  obtain ⟨name', rest, hread, hrest⟩ := accepted.readSegment 0
  rw [segment.read 0 (by simp)] at hread
  cases hread
  obtain hnil | ⟨following, eq, haccepted⟩ := hrest
  · cases hnil
  · cases eq
    exact haccepted

theorem Spells.accepted_behind {names : List String} (spells : Spells front names)
    (accepted : Accepted (front ++ '.' :: s)) : Accepted s := by
  induction spells with
  | last segment => exact segment.accepted_behind accepted
  | more segment _ ih =>
    rw [List.append_assoc] at accepted
    exact ih (segment.accepted_behind accepted)

theorem Spells.concat {names : List String} (spells : Spells front names) {text : List Char}
    (segment : Segment text name) :
    Spells (front ++ '.' :: text) (names ++ [String.ofList name]) := by
  induction spells with
  | last first => exact .more first (.last segment)
  | more first _ ih =>
    rw [List.append_assoc]
    exact .more first ih

theorem Opens.accepted_behind (opens : Opens front) (accepted : Accepted (front ++ s)) :
    Accepted s := by
  rcases opens with rfl | ⟨first, rfl, hfirst⟩
  · exact accepted
  · obtain ⟨names, spells⟩ := accepted_iff.mp hfirst
    rw [List.append_assoc] at accepted
    exact spells.accepted_behind accepted

theorem Opens.accepted (opens : Opens front) {text : List Char} (segment : Segment text name) :
    Accepted (front ++ text) := by
  rcases opens with rfl | ⟨first, rfl, hfirst⟩
  · exact accepted_iff.mpr ⟨_, .last segment⟩
  · obtain ⟨names, spells⟩ := accepted_iff.mp hfirst
    rw [List.append_assoc]
    exact accepted_iff.mpr ⟨_, spells.concat segment⟩

theorem Opens.not_accepted (opens : Opens front)
    (h : ∀ name rest, Path.readSegment 0 s = .ok (name, rest) →
      ∃ c following, rest = c :: following ∧ c ≠ '.') : ¬Accepted (front ++ s) := by
  intro accepted
  obtain ⟨name, rest, hread, hrest⟩ := (opens.accepted_behind accepted).readSegment 0
  obtain ⟨c, following, rfl, hdot⟩ := h name rest hread
  obtain hnil | ⟨behind, eq, _⟩ := hrest
  · cases hnil
  · exact hdot (List.cons.inj eq).1

theorem eq_dot {c : Char} (h : isPlain c = false) (unmarked : c ≠ tick) : c = '.' := by
  by_contra hdot
  rw [isPlain_iff.mpr ⟨hdot, unmarked⟩] at h
  cases h

theorem readSegment_stops {c : Char} (h : readSegment size s = .ok (name, c :: rest)) :
    ∃ text, Segment text name ∧ s = text ++ c :: rest ∧
      ∀ size tail, readSegment size (text ++ c :: tail) = .ok (name, c :: tail) := by
  unfold readSegment at h
  split at h
  next body =>
    split at h
    next => cases h
    next read hread =>
      cases h
      obtain ⟨inner, doubled, rfl⟩ := doubled_of_quotedBody hread
      have unmarked : c ≠ tick := by simpa using quotedBody_unmarked hread
      refine ⟨tick :: (inner ++ [tick]), .quoted doubled, by simp, fun size tail => ?_⟩
      have hbody : quotedBody (inner ++ tick :: c :: tail) = some (name, c :: tail) :=
        doubled.read (by simpa using unmarked)
      simp [readSegment, hbody]
  next =>
    simp only at h
    split at h
    next => cases h
    next unmarked =>
      split at h
      next => cases h
      next named =>
        simp only [Except.ok.injEq, Prod.mk.injEq] at h
        obtain ⟨rfl, hrest⟩ := h
        have stop : isPlain c = false := by
          have h := List.head?_dropWhile_not isPlain s
          rwa [hrest] at h
        obtain rfl : c = '.' := eq_dot stop (by simpa [hrest] using unmarked)
        have segment : Segment (s.takeWhile isPlain) (Text.trim (s.takeWhile isPlain)) :=
          .plain (fun c hc => isPlain_iff.mp (List.mem_takeWhile_imp hc)) named
        refine ⟨s.takeWhile isPlain, segment, ?_, fun size tail => segment.read size (by simp)⟩
        rw [← hrest, List.takeWhile_append_dropWhile]

theorem readSegment_run_tick {run : List Char} (plain : ∀ c ∈ run, isPlain c = true)
    (hrun : run ≠ []) (size : Nat) (tail : List Char) :
    readSegment size (run ++ tick :: tail) =
      .error (.unexpected (size - byteSize (tick :: tail)) tick) := by
  have after : (run ++ tick :: tail).dropWhile isPlain = tick :: tail := by
    rw [List.dropWhile_append_of_pos plain]
    rfl
  unfold readSegment
  split
  next body eq =>
    cases run with
    | nil => exact absurd rfl hrun
    | cons c run =>
      obtain ⟨rfl, _⟩ := List.cons.inj eq
      exact absurd rfl (isPlain_iff.mp (plain _ List.mem_cons_self)).2
  next => simp only [after, List.head?_cons, if_true]

theorem segment_run_letter {run : List Char} (plain : ∀ c ∈ run, isPlain c = true) :
    Segment (run ++ ['x']) (Text.trim (run ++ ['x'])) := by
  constructor
  · intro c hc
    rcases List.mem_append.mp hc with hc | hc
    · exact isPlain_iff.mp (plain c hc)
    · rw [List.mem_singleton.mp hc]
      decide
  · intro blank
    have letter := Text.trim_eq_nil.mp blank 'x' (by simp)
    cases letter

theorem run_tick_blames (opens : Opens front) {run : List Char}
    (plain : ∀ c ∈ run, isPlain c = true) (hrun : run ≠ []) (position : Nat) (tail : List Char) :
    (PathError.unexpected position tick).Blames (front ++ run) (tick :: tail) := by
  refine ⟨rfl, ⟨['x'], ?_⟩, fun tail => ?_⟩
  · rw [List.append_assoc]
    exact opens.accepted (segment_run_letter plain)
  · rw [List.append_assoc]
    apply opens.not_accepted
    intro name rest hread
    rw [readSegment_run_tick plain hrun] at hread
    cases hread

theorem takeWhile_plain (h : (s.dropWhile isPlain).head? ≠ some tick) :
    s.takeWhile (· ≠ '.') = s.takeWhile isPlain := by
  induction s with
  | nil => rfl
  | cons c s ih =>
    by_cases plain : isPlain c = true
    · have hdot : c ≠ '.' := (isPlain_iff.mp plain).1
      rw [List.dropWhile_cons_of_pos plain] at h
      rw [List.takeWhile_cons_of_pos plain, List.takeWhile_cons_of_pos (by simpa using hdot), ih h]
    · rw [List.dropWhile_cons_of_neg plain] at h
      obtain rfl : c = '.' := eq_dot (by simpa using plain) fun eq => h (congrArg some eq)
      rfl

theorem readSegment_error {e : PathError} (opens : Opens front)
    (h : readSegment (byteSize (front ++ s)) s = .error e) :
    ∃ before after, front ++ s = before ++ after ∧ e.position? = some (byteSize before) ∧
      e.Blames before after := by
  rw [byteSize_append] at h
  unfold readSegment at h
  split at h
  next body =>
    split at h
    next hbody =>
      cases h
      obtain ⟨name, doubled⟩ := doubled_of_quotedBody_none hbody
      refine ⟨front, tick :: body, rfl, ?_, rfl, opens, ?_⟩
      · rw [PathError.position?, Nat.add_sub_cancel]
      · rw [List.append_assoc]
        exact opens.accepted (.quoted doubled)
    next => cases h
  next unquoted =>
    simp only at h
    split at h
    next marked =>
      cases h
      have plain (c : Char) (hc : c ∈ s.takeWhile isPlain) : isPlain c = true :=
        List.mem_takeWhile_imp hc
      have parts := s.takeWhile_append_dropWhile (p := isPlain)
      obtain ⟨tail, htail⟩ := List.head?_eq_some_iff.mp marked
      rw [htail] at parts ⊢
      generalize s.takeWhile isPlain = run at plain parts
      subst parts
      have hrun : run ≠ [] := by
        rintro rfl
        exact unquoted tail rfl
      refine ⟨front ++ run, tick :: tail, (List.append_assoc ..).symm, ?_,
        run_tick_blames opens plain hrun _ tail⟩
      rw [PathError.position?, byteSize_append, byteSize_append, ← Nat.add_assoc,
        Nat.add_sub_cancel]
    next unmarked =>
      split at h
      next blank =>
        cases h
        refine ⟨front, s, rfl, ?_, opens, ?_⟩
        · rw [PathError.position?, Nat.add_sub_cancel]
        · rw [takeWhile_plain unmarked]
          exact Text.trim_eq_nil.mp blank
      next => cases h

end Segments

/-- An error in what is behind a place where a segment begins. -/
theorem read_error {size : Nat} {s front : List Char} {e : PathError} (opens : Opens front)
    (hsize : size = byteSize (front ++ s)) (h : read size s = .error e) :
    ∃ before after, front ++ s = before ++ after ∧ e.position? = some (byteSize before) ∧
      e.Blames before after := by
  -- along the segments: `front` takes in each one that is read, with the dot behind it
  fun_induction Path.read size s generalizing front with
  | case1 s cause hread =>
    cases h
    exact readSegment_error opens (hsize ▸ hread)
  | case2 => cases h
  | case3 s name hread =>
    cases h
    obtain ⟨text, segment, rfl⟩ := segment_of_readSegment hread
    refine ⟨front ++ (text ++ ['.']), [], (List.append_nil _).symm, by rw [hsize]; rfl, .inr ?_,
      by simp⟩
    exact ⟨front ++ text, (List.append_assoc ..).symm, opens.accepted segment⟩
  | case4 s name rest _ hread cause following ih =>
    cases h
    obtain ⟨text, segment, rfl⟩ := segment_of_readSegment hread
    have eq : front ++ (text ++ '.' :: rest) = front ++ text ++ ['.'] ++ rest := by simp
    rw [eq] at hsize ⊢
    exact ih (.inr ⟨front ++ text, rfl, opens.accepted segment⟩) hsize following
  | case5 => cases h
  | case6 s name c rest _ hdot hread =>
    cases h
    obtain ⟨text, segment, rfl, stops⟩ := readSegment_stops hread
    have eq : front ++ (text ++ c :: rest) = front ++ text ++ c :: rest :=
      (List.append_assoc ..).symm
    refine ⟨front ++ text, c :: rest, eq, ?_, rfl, ⟨[], ?_⟩, fun tail => ?_⟩
    · rw [PathError.position?, hsize, eq, byteSize_append, Nat.add_sub_cancel]
    · rw [List.append_nil]
      exact opens.accepted segment
    · rw [List.append_assoc]
      apply opens.not_accepted
      intro name' rest' hread'
      rw [stops] at hread'
      cases hread'
      exact ⟨c, tail, rfl, hdot⟩

/-- Why a text is no path. It is all blank, or the error has a place in the text. Where a character
is unexpected, something can follow the text up to there, and nothing that begins with the
character. Where a segment is empty or not closed, it begins there: behind nothing, or behind a path
and a dot. The empty one is blank up to the next dot or the end, and the open one is closed by one
more backtick. -/
theorem parse_error_blames (s : String) :
    (parse s = .error .empty ↔ ∀ c ∈ s.toList, Text.isBlank c = true) ∧
    ∀ e, parse s = .error e → e ≠ .empty → ∃ before after, s.toList = before ++ after ∧
      e.position? = some (String.ofList before).utf8ByteSize ∧ e.Blames before after := by
  have unread {e : PathError} (h : Path.read (byteSize s.toList) s.toList = .error e) :
      ∃ before after, s.toList = before ++ after ∧
        e.position? = some (String.ofList before).utf8ByteSize ∧ e.Blames before after := by
    obtain ⟨before, after, hparts, hposition, blames⟩ := read_error (.inl rfl) rfl h
    exact ⟨before, after, hparts, byteSize_eq_utf8ByteSize before ▸ hposition, blames⟩
  constructor
  · rw [← Text.trim_eq_nil]
    constructor
    · intro h
      by_contra named
      rw [parse] at h
      split at h
      next blank => exact named blank
      next =>
        obtain ⟨_, _, _, hposition, _⟩ := unread h
        cases hposition
    · intro blank
      rw [parse, blank]
  · intro e h hne
    unfold parse at h
    split at h
    next =>
      cases h
      exact absurd rfl hne
    next => exact unread h

/-- A blank text, a blank segment, a backtick behind a plain run, and a segment that is not closed,
for the two backticks at its end are one of its name. -/
theorem four_texts_blamed : parse " \t" = .error .empty ∧
    parse "a. .b" = .error (.emptySegment 2) ∧ parse "é`b" = .error (.unexpected 2 tick) ∧
    parse "é.`b``" = .error (.unterminated 3) ∧ Accepted "é.`b```".toList := by
  have unclosed : parse "é.`b``" = .error (.unterminated 3) := by decide +kernel
  have blank : ∀ c ∈ " \t".toList, Text.isBlank c = true := List.all_eq_true.mp (by decide)
  refine ⟨(parse_error_blames " \t").1.mpr blank, by decide +kernel, by decide +kernel, unclosed,
    ?_⟩
  obtain ⟨before, after, hparts, _, _, _, accepted⟩ :=
    (parse_error_blames "é.`b``").2 _ unclosed (by decide)
  rw [← hparts] at accepted
  exact accepted

end Path

end FederatedCatalog
