import FederatedCatalog.Proofs.DottedName
import Mathlib.Data.List.TakeWhile

namespace FederatedCatalog

theorem Text.trim_eq_nil {s : List Char} : trim s = [] ↔ ∀ c ∈ s, isBlank c = true := by
  rw [trim, List.reverse_eq_nil_iff, List.dropWhile_eq_nil_iff]
  simp only [List.mem_reverse]
  constructor
  · intro h c hc
    rw [← s.takeWhile_append_dropWhile (p := isBlank)] at hc
    rcases List.mem_append.mp hc with hc | hc
    · exact List.mem_takeWhile_imp hc
    · exact h c hc
  · intro h c hc
    exact h c ((List.dropWhile_sublist _).mem hc)

namespace Path

/-- What stands between two backticks, and the name that it stands for: the same, but for each
backtick of the name two of them. -/
inductive Doubled : List Char → List Char → Prop
  | nil : Doubled [] []
  | mark {body name : List Char} (rest : Doubled body name) :
      Doubled (tick :: tick :: body) (tick :: name)
  | other {c : Char} {body name : List Char} (unmarked : c ≠ tick) (rest : Doubled body name) :
      Doubled (c :: body) (c :: name)

/-- The text of one segment, and its name. -/
inductive Segment : List Char → List Char → Prop
  | plain {run : List Char} (bare : ∀ c ∈ run, c ≠ '.' ∧ c ≠ tick) (named : Text.trim run ≠ []) :
      Segment run (Text.trim run)
  | quoted {body name : List Char} (doubled : Doubled body name) :
      Segment (tick :: (body ++ [tick])) name

/-- A row of segments with dots between them, and their names in order. -/
inductive Spells : List Char → List String → Prop
  | last {text name : List Char} (segment : Segment text name) : Spells text [String.ofList name]
  | more {text name rest : List Char} {names : List String} (segment : Segment text name)
      (following : Spells rest names) :
      Spells (text ++ '.' :: rest) (String.ofList name :: names)

section Quoted

theorem quotedBody_close {s : List Char} (h : s.head? ≠ some tick) :
    quotedBody (tick :: s) = some ([], s) := by
  cases s with
  | nil => rfl
  | cons c s =>
    have hc : c ≠ tick := fun eq => h (congrArg some eq)
    rw [quotedBody]
    intro t eq
    exact hc (List.cons.inj eq).1

theorem quotedBody_other {c : Char} (hc : c ≠ tick) (s : List Char) :
    quotedBody (c :: s) = (quotedBody s).map fun (body, rest) => (c :: body, rest) := by
  rw [quotedBody]
  · intro t eq _
    exact hc eq
  · intro eq
    exact hc eq

theorem Doubled.read {body name : List Char} (doubled : Doubled body name) {rest : List Char}
    (h : rest.head? ≠ some tick) : quotedBody (body ++ tick :: rest) = some (name, rest) := by
  induction doubled with
  | nil => exact quotedBody_close h
  | mark _ ih =>
    rw [List.cons_append, List.cons_append, quotedBody, ih]
    rfl
  | other unmarked _ ih =>
    rw [List.cons_append, quotedBody_other unmarked, ih]
    rfl

theorem doubled_of_quotedBody {s name rest : List Char} (h : quotedBody s = some (name, rest)) :
    ∃ body, Doubled body name ∧ s = body ++ tick :: rest := by
  fun_induction quotedBody s generalizing name rest with
  | case1 => cases h
  | case2 s ih =>
    obtain ⟨⟨inner, after⟩, hs, eq⟩ := Option.map_eq_some_iff.mp h
    cases eq
    obtain ⟨body, doubled, rfl⟩ := ih hs
    exact ⟨tick :: tick :: body, .mark doubled, rfl⟩
  | case3 s =>
    cases h
    exact ⟨[], .nil, rfl⟩
  | case4 c s _ unmarked ih =>
    obtain ⟨⟨inner, after⟩, hs, eq⟩ := Option.map_eq_some_iff.mp h
    cases eq
    obtain ⟨body, doubled, rfl⟩ := ih hs
    exact ⟨c :: body, .other unmarked doubled, rfl⟩

end Quoted

section Segments

variable {text name rest : List Char}

theorem isPlain_iff {c : Char} : isPlain c = true ↔ c ≠ '.' ∧ c ≠ tick := by
  simp [isPlain]

theorem Segment.not_blank (segment : Segment text name) : ∃ c ∈ text, Text.isBlank c = false := by
  cases segment with
  | plain _ named =>
    rw [Ne, Text.trim_eq_nil] at named
    simpa using named
  | quoted _ => exact ⟨tick, List.mem_cons_self, by decide⟩

theorem Segment.read (segment : Segment text name) (size : Nat) (h : ∀ c ∈ rest.head?, c = '.') :
    readSegment size (text ++ rest) = .ok (name, rest) := by
  have unmarked : rest.head? ≠ some tick := fun eq => absurd (h tick eq) (by decide)
  cases segment with
  | quoted doubled =>
    rw [List.cons_append, List.append_assoc]
    simp only [readSegment, List.cons_append, List.nil_append, doubled.read unmarked]
  | plain bare named =>
    have plain : ∀ c ∈ text, isPlain c = true := fun c hc => isPlain_iff.mpr (bare c hc)
    have stop : rest.dropWhile isPlain = rest ∧ rest.takeWhile isPlain = [] := by
      cases rest with
      | nil => exact ⟨rfl, rfl⟩
      | cons c t =>
        cases h c rfl
        exact ⟨rfl, rfl⟩
    have after : (text ++ rest).dropWhile isPlain = rest := by
      rw [List.dropWhile_append_of_pos plain, stop.1]
    have before : (text ++ rest).takeWhile isPlain = text := by
      rw [List.takeWhile_append_of_pos plain, stop.2, List.append_nil]
    unfold readSegment
    split
    next body eq =>
      -- a plain segment does not begin with a backtick
      cases text with
      | nil => exact absurd rfl named
      | cons c t =>
        obtain ⟨rfl, _⟩ := List.cons.inj eq
        exact absurd rfl (bare _ List.mem_cons_self).2
    next =>
      simp only [after, before, if_neg unmarked]

theorem segment_of_readSegment {size : Nat} {s : List Char}
    (h : readSegment size s = .ok (name, rest)) : ∃ text, Segment text name ∧ s = text ++ rest := by
  unfold readSegment at h
  split at h
  next body =>
    split at h
    next => cases h
    next read hread =>
      cases h
      obtain ⟨inner, doubled, rfl⟩ := doubled_of_quotedBody hread
      exact ⟨tick :: (inner ++ [tick]), .quoted doubled, by simp⟩
  next =>
    simp only at h
    split at h
    next => cases h
    next =>
      split at h
      next => cases h
      next found named =>
        cases h
        refine ⟨s.takeWhile isPlain, .plain ?_ named, s.takeWhile_append_dropWhile.symm⟩
        intro c hc
        exact isPlain_iff.mp (List.mem_takeWhile_imp hc)

end Segments

theorem Spells.not_blank {s : List Char} {names : List String} (spells : Spells s names) :
    ∃ c ∈ s, Text.isBlank c = false := by
  cases spells with
  | last segment => exact segment.not_blank
  | more segment _ =>
    obtain ⟨c, hc, hblank⟩ := segment.not_blank
    exact ⟨c, List.mem_append_left _ hc, hblank⟩

theorem read_last {size : Nat} {s name : List Char} (h : readSegment size s = .ok (name, [])) :
    read size s = .ok (single (String.ofList name)) := by
  unfold read
  split <;> simp_all

theorem read_more {size : Nat} {s name rest : List Char} {path : Path}
    (h : readSegment size s = .ok (name, '.' :: rest)) (hrest : rest ≠ [])
    (hread : read size rest = .ok path) :
    read size s = .ok (path.under (String.ofList name)) := by
  unfold read
  split <;> simp_all

/-- A row of segments is read as the path of their names. -/
theorem Spells.read {s : List Char} {names : List String} (spells : Spells s names) (size : Nat) :
    ∃ path, Path.read size s = .ok path ∧ path.segments = names := by
  induction spells with
  | @last text name segment =>
    have hread : readSegment size (text ++ []) = .ok (name, []) := segment.read size (by simp)
    rw [List.append_nil] at hread
    exact ⟨.single (String.ofList name), read_last hread, rfl⟩
  | @more text name rest names segment following ih =>
    obtain ⟨path, hpath, hnames⟩ := ih
    have hread : readSegment size (text ++ '.' :: rest) = .ok (name, '.' :: rest) :=
      segment.read size (by simp)
    have hrest : rest ≠ [] := by
      obtain ⟨c, hc, _⟩ := following.not_blank
      exact List.ne_nil_of_mem hc
    refine ⟨path.under (String.ofList name), read_more hread hrest hpath, ?_⟩
    rw [← hnames]
    rfl

theorem spells_of_read {size : Nat} {s : List Char} {path : Path}
    (h : Path.read size s = .ok path) : Spells s path.segments := by
  fun_induction Path.read size s generalizing path with
  | case1 => cases h
  | case2 s name hread =>
    cases h
    obtain ⟨text, segment, rfl⟩ := segment_of_readSegment hread
    rw [List.append_nil]
    exact .last segment
  | case3 => cases h
  | case4 => cases h
  | case5 s name rest _ hread path following ih =>
    cases h
    obtain ⟨text, segment, rfl⟩ := segment_of_readSegment hread
    exact .more segment (ih following)
  | case6 => cases h

theorem segments_inj {path path' : Path} (h : path.segments = path'.segments) : path = path' := by
  obtain ⟨hfirst, hrest⟩ := List.cons.inj h
  cases path
  cases path'
  simp only at hfirst hrest
  rw [hfirst, hrest]

theorem parse_of_spells {s : String} {path : Path} (spells : Spells s.toList path.segments) :
    parse s = .ok path := by
  obtain ⟨found, hread, hsegments⟩ := spells.read (byteSize s.toList)
  unfold parse
  split
  next blank =>
    obtain ⟨c, hc, hblank⟩ := spells.not_blank
    rw [Text.trim_eq_nil.mp blank c hc] at hblank
    cases hblank
  next => rw [hread, segments_inj hsegments]

theorem spells_of_parse {s : String} {path : Path} (h : parse s = .ok path) :
    Spells s.toList path.segments := by
  unfold parse at h
  split at h
  next => cases h
  next => exact spells_of_read h

section Plain

variable {s : List Char} {names : List String}

theorem not_mem_parts {text rest : List Char} (h : tick ∉ text ++ '.' :: rest) :
    tick ∉ text ∧ tick ∉ rest :=
  ⟨fun hm => h (List.mem_append_left _ hm),
    fun hm => h (List.mem_append_right _ (List.mem_cons_of_mem _ hm))⟩

theorem Segment.plain_of_not_mem {text name : List Char} (segment : Segment text name)
    (h : tick ∉ text) : '.' ∉ text ∧ Text.trim text ≠ [] ∧ name = Text.trim text := by
  cases segment with
  | plain bare named => exact ⟨fun hdot => (bare _ hdot).1 rfl, named, rfl⟩
  | quoted _ => exact absurd List.mem_cons_self h

theorem Spells.pieces (spells : Spells s names) (h : tick ∉ s) :
    (∀ piece ∈ pieces s, Text.trim piece ≠ []) ∧
      names = (pieces s).map fun piece => String.ofList (Text.trim piece) := by
  induction spells with
  | last segment =>
    obtain ⟨hdot, named, rfl⟩ := segment.plain_of_not_mem h
    rw [pieces_of_not_mem hdot]
    simpa using named
  | @more text name rest names segment following ih =>
    obtain ⟨htext, hrest⟩ := not_mem_parts h
    obtain ⟨hdot, named, rfl⟩ := segment.plain_of_not_mem htext
    obtain ⟨hnamed, hnames⟩ := ih hrest
    rw [pieces_append_dot _ hdot]
    exact ⟨List.forall_mem_cons.mpr ⟨named, hnamed⟩, congrArg _ hnames⟩

theorem spells_of_pieces {ps : List (List Char)} (hpieces : pieces s = ps) (h : tick ∉ s)
    (named : ∀ piece ∈ ps, Text.trim piece ≠ []) :
    Spells s (ps.map fun piece => String.ofList (Text.trim piece)) := by
  induction ps generalizing s with
  | nil => exact absurd hpieces (pieces_ne_nil s)
  | cons piece rest ih =>
    obtain ⟨hpiece, hothers⟩ := List.forall_mem_cons.mp named
    obtain ⟨hdot, hshape⟩ := pieces_eq_cons hpieces
    have segment (hm : tick ∉ piece) : Segment piece (Text.trim piece) :=
      .plain (fun c hc => ⟨fun eq => hdot (eq ▸ hc), fun eq => hm (eq ▸ hc)⟩) hpiece
    rcases hshape with ⟨rfl, rfl⟩ | ⟨t, rfl, ht⟩
    · exact .last (segment h)
    · obtain ⟨hfirst, hrest⟩ := not_mem_parts h
      exact .more (segment hfirst) (ih ht hrest hothers)

end Plain

section Written

theorem doubled_flatMap (name : List Char) :
    Doubled (name.flatMap fun c => if c = tick then [tick, tick] else [c]) name := by
  induction name with
  | nil => exact .nil
  | cons c name ih =>
    rw [List.flatMap_cons]
    split
    next eq =>
      subst eq
      exact .mark ih
    next unmarked => exact .other unmarked ih

theorem segment_enclose (name : List Char) : Segment (enclose name) name :=
  .quoted (doubled_flatMap name)

theorem spells_spell (first : List Char) (rest : List (List Char)) :
    Spells (spell first rest) ((first :: rest).map String.ofList) := by
  induction rest generalizing first with
  | nil => exact .last (segment_enclose first)
  | cons next rest ih => exact .more (segment_enclose first) (ih next)

theorem spells_text (path : Path) : Spells path.text.toList path.segments := by
  have h := spells_spell path.first.toList (path.rest.map String.toList)
  simpa [text, Path.segments, Function.comp_def] using h

end Written

/-- A text is read as a path exactly if it is a row of segments, and the path is that of their
names. Without backticks these are the pieces between the dots, without the blanks around them, and
none of them may be blank. -/
theorem parse_grammar (s : String) :
    (∀ path, parse s = .ok path ↔ Spells s.toList path.segments) ∧
    (tick ∉ s.toList →
      ((∃ path, parse s = .ok path) ↔ ∀ piece ∈ dotted s, Text.trim piece.toList ≠ []) ∧
      ∀ path, parse s = .ok path →
        path.segments = (dotted s).map fun piece => String.ofList (Text.trim piece.toList)) := by
  refine ⟨fun path => ⟨spells_of_parse, parse_of_spells⟩, fun h => ⟨⟨?_, ?_⟩, ?_⟩⟩
  · rintro ⟨path, hpath⟩
    simpa [dotted] using ((spells_of_parse hpath).pieces h).1
  · intro named
    have hnamed : ∀ piece ∈ pieces s.toList, Text.trim piece ≠ [] := by
      simpa [dotted] using named
    have spells := spells_of_pieces rfl h hnamed
    obtain ⟨path, _, hsegments⟩ := spells.read 0
    rw [← hsegments] at spells
    exact ⟨path, parse_of_spells spells⟩
  · intro path hpath
    rw [((spells_of_parse hpath).pieces h).2, dotted, List.map_map]
    apply List.map_congr_left
    intro piece _
    simp

/-- A plain path with blanks in it, and a quoted one with a dot and a backtick in its names. -/
theorem plain_quoted_parsed : tick ∉ " dfs . tmp".toList ∧
    (∃ path, parse " dfs . tmp" = .ok path ∧ path.segments = ["dfs", "tmp"]) ∧
    parse "`dfs.tmp`.`a``b`" = .ok ⟨"dfs.tmp", ["a`b"]⟩ := by
  have unmarked : tick ∉ " dfs . tmp".toList := by decide
  obtain ⟨parsed, segments⟩ := (parse_grammar " dfs . tmp").2 unmarked
  obtain ⟨path, hpath⟩ := parsed.mpr (by decide)
  refine ⟨unmarked, ⟨path, hpath, (segments path hpath).trans (by decide +kernel)⟩, ?_⟩
  have written : text ⟨"dfs.tmp", ["a`b"]⟩ = "`dfs.tmp`.`a``b`" := by decide +kernel
  rw [← written]
  exact ((parse_grammar _).1 ⟨"dfs.tmp", ["a`b"]⟩).mpr (spells_text _)

/-- What a path is written as is read back as the path. So no two paths are written alike, and to
write what was read and to read it again changes nothing. -/
theorem parse_written :
    (∀ path : Path, parse path.text = .ok path) ∧
    (∀ path path' : Path, path.text = path'.text ↔ path = path') ∧
    ∀ s : String, ((parse s).bind fun path => parse path.text) = parse s := by
  have back : ∀ path : Path, parse path.text = .ok path := fun path =>
    parse_of_spells (spells_text path)
  refine ⟨back, fun path path' => ⟨fun h => ?_, congrArg text⟩, fun s => ?_⟩
  · have same := (back path).symm.trans (h ▸ back path')
    exact Except.ok.inj same
  · cases h : parse s with
    | error cause => rfl
    | ok path => exact back path

end Path

end FederatedCatalog
