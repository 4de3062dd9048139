import AppLifecycle.DefaultPaths
import AppLifecycle.Rehearsal.Machine.Files
import Mathlib.Data.List.Basic
import Mathlib.Tactic.Lemma

/-!
# Where paths lead

A path is walked piece by piece (`Path.arrive`). Pieces that count for nothing can be left out, so
that a path with another file name leads to the same directory as before, and to the same place
exactly if it has that file name already (`Path.resolve_withFileName`).
-/

namespace AppLifecycle.Path

open Machine (Files.resolve)

variable {s : List Char} {ps qs : List (List Char)} {piece name : List Char} {dir : List String}

/-! ## Pieces -/

/-- Paths are split and joined as lists are. -/
lemma pieces_eq_splitOn (s : List Char) : pieces s = s.splitOn '/' := by
  induction s with
  | nil => rfl
  | cons c rest ih =>
    rw [pieces, ih, List.splitOn_cons_eq_if_modifyHead]
    cases split : rest.splitOn '/' with
    | nil => exact absurd split (List.splitOn_ne_nil '/' rest)
    | cons first more => simp

lemma unpieces_eq_intercalate (ps : List (List Char)) : unpieces ps = ['/'].intercalate ps := by
  induction ps with
  | nil => rfl
  | cons piece ps ih =>
    cases ps with
    | nil => simp [unpieces]
    | cons next more => simp [unpieces, ih, List.intercalate_cons_cons]

lemma pieces_ne_nil (s : List Char) : pieces s ≠ [] := by
  rw [pieces_eq_splitOn]
  exact List.splitOn_ne_nil '/' s

lemma pieces_append_slash (s t : List Char) : pieces (s ++ '/' :: t) = pieces s ++ pieces t := by
  simp only [pieces_eq_splitOn, List.splitOn_append_cons_self]

lemma pieces_of_notMem (slashless : '/' ∉ s) : pieces s = [s] := by
  rw [pieces_eq_splitOn, List.splitOn_eq_singleton slashless]

lemma pieces_unpieces (slashless : ∀ piece ∈ ps, '/' ∉ piece) (nonempty : ps ≠ []) :
    pieces (unpieces ps) = ps := by
  rw [pieces_eq_splitOn, unpieces_eq_intercalate, List.splitOn_intercalate _ slashless nonempty]

lemma unpieces_pieces (s : List Char) : unpieces (pieces s) = s := by
  rw [pieces_eq_splitOn, unpieces_eq_intercalate, List.intercalate_splitOn]

/-- No piece has a slash in it. -/
lemma slash_notMem (mem : piece ∈ pieces s) : '/' ∉ piece := by
  induction s generalizing piece with
  | nil =>
    obtain rfl := List.mem_singleton.mp mem
    exact List.not_mem_nil
  | cons c rest ih =>
    rw [pieces] at mem
    cases split : pieces rest with
    | nil => exact absurd split (pieces_ne_nil rest)
    | cons first more =>
      rw [split] at ih mem
      dsimp only at mem
      split_ifs at mem with slash
      · -- the slash ends a piece that is empty so far
        obtain rfl | mem := List.mem_cons.mp mem
        · exact List.not_mem_nil
        · exact ih mem
      · obtain rfl | mem := List.mem_cons.mp mem
        · exact List.not_mem_cons_of_ne_of_not_mem (Ne.symm slash) (ih List.mem_cons_self)
        · exact ih (List.mem_cons_of_mem first mem)

/-- A name that is one piece and stands for itself. -/
structure Plain (name : List Char) : Prop where
  slashless : '/' ∉ name
  solid : isFiller name = false
  downward : name ≠ ['.', '.']

instance (name : List Char) : Decidable (Plain name) :=
  decidable_of_iff ('/' ∉ name ∧ isFiller name = false ∧ name ≠ ['.', '.'])
    ⟨fun ⟨a, b, c⟩ => ⟨a, b, c⟩, fun ⟨a, b, c⟩ => ⟨a, b, c⟩⟩

/-- The pieces that count for nothing and the way up have two characters at most. -/
lemma Plain.of_length (slashless : '/' ∉ name) (long : 2 < name.length) : Plain name where
  slashless := slashless
  solid := by
    rw [isFiller, Bool.or_eq_false_iff, List.isEmpty_eq_false_iff, decide_eq_false_iff_not]
    constructor
    · rintro rfl
      simp at long
    · rintro rfl
      simp at long
  downward := by
    rintro rfl
    simp at long

lemma Plain.ne_nil (plain : Plain name) : name ≠ [] := by
  rintro rfl
  exact absurd plain.solid (by decide)

lemma Plain.head?_ne (plain : Plain name) : name.head? ≠ some '/' :=
  fun slash => plain.slashless (List.mem_of_head? slash)

/-! ## The walk -/

/-- One piece further. -/
def enter (dir : List String) (piece : List Char) : List String :=
  if isFiller piece then dir
  else if piece = ['.', '.'] then dir.dropLast
  else dir ++ [String.ofList piece]

/-- Where a walk begins: at the root if the first piece is empty and not all there is. -/
def origin (dir : List String) : List (List Char) → List String
  | [] :: _ :: _ => []
  | _ => dir

/-- Where pieces lead. -/
def arrive (dir : List String) (ps : List (List Char)) : List String :=
  ps.foldl enter (origin dir ps)

lemma origin_eq (more : ps ≠ [[]]) :
    origin dir ps = if ps.head? = some [] then [] else dir := by
  rcases ps with _ | ⟨_ | _, _ | _⟩
  · rfl
  · exact absurd rfl more
  all_goals rfl

lemma origin_pieces (dir : List String) (s : List Char) :
    origin dir (pieces s) = if s.head? = some '/' then [] else dir := by
  cases s with
  | nil => rfl
  | cons c rest =>
    rw [pieces]
    cases split : pieces rest with
    | nil => exact absurd split (pieces_ne_nil rest)
    | cons first more =>
      by_cases slash : c = '/'
      · simp [slash, origin]
      · simp [slash, origin]

/-- A path is resolved by its pieces. -/
lemma resolve_eq_arrive (dir : List String) (text : String) :
    Files.resolve dir text = arrive dir (pieces text.toList) := by
  have named (piece name : List Char) : String.ofList piece = String.ofList name ↔ piece = name :=
    String.ofList_inj
  have filler (piece : List Char) :
      (String.ofList piece = "" ∨ String.ofList piece = ".") ↔ isFiller piece = true := by
    rw [isFiller, Bool.or_eq_true, List.isEmpty_iff, decide_eq_true_iff]
    exact or_congr (named piece []) (named piece ['.'])
  have up (piece : List Char) : String.ofList piece = ".." ↔ piece = ['.', '.'] :=
    named piece ['.', '.']
  rw [arrive, origin_pieces, Files.resolve, List.foldl_map]
  simp only [filler, up]
  rfl

lemma foldl_enter_fillers (fillers : ∀ piece ∈ ps, isFiller piece) : ps.foldl enter dir = dir := by
  induction ps with
  | nil => rfl
  | cons piece ps ih =>
    rw [List.foldl_cons, enter, if_pos (fillers piece List.mem_cons_self)]
    exact ih fun p mem => fillers p (List.mem_cons_of_mem piece mem)

lemma enter_plain (plain : Plain name) : enter dir name = dir ++ [String.ofList name] := by
  rw [enter, plain.solid, if_neg Bool.false_ne_true, if_neg plain.downward]

/-- Where more than an empty piece is walked, the first piece says where the walk begins. -/
lemma origin_append (more : ps ≠ [] ∨ piece ≠ []) :
    origin dir (ps ++ piece :: qs) = if ps.head? = some [] then [] else dir := by
  rcases ps with _ | ⟨_ | _, _ | _⟩
  · rcases piece with _ | _
    · exact absurd rfl (more.resolve_left (not_not_intro rfl))
    · rfl
  all_goals rfl

/-- The last piece of a walk is where it leads to. -/
lemma arrive_concat (plain : Plain name) :
    arrive dir (ps ++ [name]) =
      ps.foldl enter (if ps.head? = some [] then [] else dir) ++ [String.ofList name] := by
  rw [arrive, origin_append (.inr plain.ne_nil), List.foldl_append, List.foldl_cons, List.foldl_nil,
    enter_plain plain]

/-- Pieces that count for nothing can be left out of a walk that has begun. -/
lemma arrive_fillers {inner outer : List (List Char)} (plain : Plain name)
    (begun : ps = [] → inner = []) (skipped : ∀ piece ∈ inner, isFiller piece)
    (ignored : ∀ piece ∈ outer, isFiller piece) :
    arrive dir (ps ++ inner ++ name :: outer) = arrive dir (ps ++ [name]) := by
  have first : (ps ++ inner).head? = ps.head? := by
    cases ps with
    | nil => rw [begun rfl, List.append_nil]
    | cons piece ps => rfl
  rw [arrive_concat plain, arrive, origin_append (.inr plain.ne_nil), first, List.foldl_append,
    List.foldl_append, foldl_enter_fillers skipped, List.foldl_cons, enter_plain plain,
    foldl_enter_fillers ignored]

/-! ## Joins -/

/-- A name is joined to a path as one more piece, in the place of an empty last one. -/
lemma pieces_joinChars (plain : Plain name) (base : List Char) :
    (base = [] ∧ pieces (joinChars base name) = [name]) ∨
    (∃ above, base = above ++ ['/'] ∧ pieces (joinChars base name) = pieces above ++ [name]) ∨
    (base ≠ [] ∧ base.getLast? ≠ some '/' ∧
      pieces (joinChars base name) = pieces base ++ [name]) := by
  have alone := pieces_of_notMem plain.slashless
  rw [joinChars, if_neg plain.head?_ne]
  by_cases empty : base = []
  · refine .inl ⟨empty, ?_⟩
    rw [empty]
    exact alone
  by_cases slash : base.getLast? = some '/'
  · obtain ⟨above, rfl⟩ := List.getLast?_eq_some_iff.mp slash
    refine .inr (.inl ⟨above, rfl, ?_⟩)
    rw [if_pos (by simp), List.append_assoc, List.singleton_append, pieces_append_slash, alone]
  · refine .inr (.inr ⟨empty, slash, ?_⟩)
    rw [if_neg (by simp [empty, slash]), pieces_append_slash, alone]

/-- A path beneath another one leads one step further. -/
lemma resolve_join {name : String} (plain : Plain name.toList) (p : Path) :
    Files.resolve dir (p.join name).text = Files.resolve dir p.text ++ [name] := by
  rw [resolve_eq_arrive, resolve_eq_arrive, join, String.toList_ofList]
  obtain ⟨empty, joined⟩ | ⟨above, ended, joined⟩ | ⟨nonempty, -, joined⟩ :=
    pieces_joinChars plain p.text.toList
  · rw [joined, empty, ← List.nil_append [name.toList], arrive_concat plain, String.ofList_toList]
    rfl
  · -- the empty piece behind the last slash counts for nothing
    rw [joined, ended, arrive_concat plain, pieces_append_slash, arrive, pieces,
      origin_append (.inl (pieces_ne_nil above)), List.foldl_append, String.ofList_toList]
    rfl
  · rw [joined, arrive_concat plain, arrive, String.ofList_toList, origin_eq fun lone => nonempty ?_]
    rw [← unpieces_pieces p.text.toList, lone]
    rfl

/-! ## File names -/

/-- What stands behind the last name of a path counts for nothing. -/
lemma dropFillers_split (ps : List (List Char)) :
    ∃ fillers, ps = fillers ++ dropFillers ps ∧ ∀ piece ∈ fillers, isFiller piece := by
  fun_induction dropFillers ps with
  | case1 => exact ⟨[], rfl, nofun⟩
  | case2 first => exact ⟨[], rfl, nofun⟩
  | case3 piece more _ filler ih =>
    obtain ⟨fillers, split, all⟩ := ih
    refine ⟨piece :: fillers, congrArg (piece :: ·) split, ?_⟩
    exact List.forall_mem_cons.mpr ⟨filler, all⟩
  | case4 piece more _ solid => exact ⟨[], rfl, nofun⟩

/-- Nothing is left that counts for nothing, unless it is all there is. -/
lemma isFiller_of_dropFillers (left : dropFillers ps = piece :: qs) (more : qs ≠ []) :
    isFiller piece = false := by
  fun_induction dropFillers ps with
  | case1 => cases left
  | case2 first =>
    obtain ⟨rfl, rfl⟩ := List.cons.inj left
    exact absurd rfl more
  | case3 _ _ _ _ ih => exact ih left
  | case4 _ _ _ solid =>
    obtain ⟨rfl, rfl⟩ := List.cons.inj left
    exact Bool.eq_false_iff.mpr solid

lemma dropFillers_ne_nil (nonempty : ps ≠ []) : dropFillers ps ≠ [] := by
  fun_induction dropFillers ps with
  | case1 => exact nonempty
  | case2 first => exact List.cons_ne_nil first []
  | case3 _ _ long _ ih => exact ih (by rintro rfl; exact long rfl)
  | case4 piece more => exact List.cons_ne_nil piece more

lemma splitName?_eq_some {before : List (List Char)} (split : splitName? s = some (name, before)) :
    dropFillers (pieces s).reverse = name :: before ∧ Plain name := by
  rw [splitName?] at split
  cases left : dropFillers (pieces s).reverse with
  | nil =>
    rw [left] at split
    cases split
  | cons last others =>
    rw [left] at split
    dsimp only at split
    split_ifs at split with vain
    obtain ⟨⟨⟩⟩ := split
    have solid : isFiller name = false ∧ name ≠ ['.', '.'] := by simpa using vain
    refine ⟨rfl, ?_, solid.1, solid.2⟩
    -- the name is one of the pieces
    obtain ⟨fillers, all, -⟩ := dropFillers_split (pieces s).reverse
    have mem : name ∈ (pieces s).reverse := by
      rw [all, left]
      exact List.mem_append_right fillers List.mem_cons_self
    exact slash_notMem (List.mem_reverse.mp mem)

/-- A path with a file name is the way to its directory, the name, and pieces between and behind
them that count for nothing. -/
lemma pieces_of_splitName? {before : List (List Char)}
    (split : splitName? s = some (name, before)) :
    ∃ inner outer, pieces s = (dropFillers before).reverse ++ inner ++ name :: outer ∧
      ((dropFillers before).reverse = [] → inner = []) ∧
      (∀ piece ∈ inner, isFiller piece) ∧ ∀ piece ∈ outer, isFiller piece := by
  obtain ⟨left, -⟩ := splitName?_eq_some split
  obtain ⟨outer, all, ignored⟩ := dropFillers_split (pieces s).reverse
  obtain ⟨inner, way, skipped⟩ := dropFillers_split before
  refine ⟨inner.reverse, outer.reverse, ?_, fun none => ?_, ?_, ?_⟩
  · calc
      pieces s = (outer ++ name :: (inner ++ dropFillers before)).reverse := by
        rw [← way, ← left, ← all, List.reverse_reverse]
      _ = _ := by simp
  · -- with no way to the directory, nothing stands before the name
    have empty : before = [] := by
      by_contra nonempty
      exact dropFillers_ne_nil nonempty (List.reverse_eq_nil_iff.mp none)
    rw [empty] at way
    rw [(List.append_eq_nil_iff.mp way.symm).1, List.reverse_nil]
  · exact fun piece mem => skipped piece (List.mem_reverse.mp mem)
  · exact fun piece mem => ignored piece (List.mem_reverse.mp mem)

lemma directory_eq {before : List (List Char)} (below : dropFillers before ≠ [[]]) :
    directory before = unpieces (dropFillers before).reverse := by
  rw [directory]
  split
  · rename_i root
    exact absurd root below
  · rfl

/-- A name in a directory stands behind the way to it. -/
lemma pieces_joinChars_directory (plain : Plain name) {before : List (List Char)}
    (slashless : ∀ piece ∈ (dropFillers before).reverse, '/' ∉ piece) (nonempty : before ≠ []) :
    pieces (joinChars (directory before) name) = (dropFillers before).reverse ++ [name] := by
  by_cases root : dropFillers before = [[]]
  · rw [directory, root, joinChars, if_neg plain.head?_ne, if_pos (by decide)]
    exact (pieces_append_slash [] name).trans (by rw [pieces_of_notMem plain.slashless]; rfl)
  have left := dropFillers_ne_nil nonempty
  have way : pieces (directory before) = (dropFillers before).reverse := by
    rw [directory_eq root, pieces_unpieces slashless (List.reverse_ne_nil_iff.mpr left)]
  obtain ⟨empty, -⟩ | ⟨above, ended, -⟩ | ⟨-, -, joined⟩ :=
    pieces_joinChars plain (directory before)
  · rw [empty] at way
    exact absurd (List.reverse_eq_iff.mp way.symm) root
  · -- the way does not end in an empty piece
    rw [ended, pieces_append_slash] at way
    have last := List.reverse_eq_iff.mp way.symm
    rw [List.reverse_append] at last
    exact absurd (isFiller_of_dropFillers last (by simp [pieces_ne_nil])) (by decide)
  · rw [joined, way]

/-- Another file name stands behind the same way. -/
lemma pieces_withFileName {p : Path} {name : String} (plain : Plain name.toList)
    {old : List Char} {before : List (List Char)}
    (split : splitName? p.text.toList = some (old, before)) :
    pieces (p.withFileName name).text.toList = (dropFillers before).reverse ++ [name.toList] := by
  have slashless : ∀ piece ∈ (dropFillers before).reverse, '/' ∉ piece := by
    intro piece mem
    obtain ⟨inner, outer, all, -⟩ := pieces_of_splitName? split
    refine slash_notMem (s := p.text.toList) ?_
    rw [all, List.append_assoc]
    exact List.mem_append_left _ mem
  rw [withFileName, split]
  cases before with
  | nil => exact pieces_of_notMem plain.slashless
  | cons last others =>
    dsimp only
    rw [String.toList_ofList]
    exact pieces_joinChars_directory plain slashless (List.cons_ne_nil last others)

/-- With another file name a path leads to the same place exactly if it has that name already. -/
theorem resolve_withFileName {name : String} (plain : Plain name.toList) (p : Path) :
    Files.resolve dir (p.withFileName name).text = Files.resolve dir p.text ↔
      fileName? p.text.toList = some name.toList := by
  rw [fileName?]
  cases split : splitName? p.text.toList with
  | none =>
    -- the name is added, and leads one step further
    rw [withFileName, split]
    dsimp only
    rw [resolve_join plain]
    simp
  | some found =>
    obtain ⟨old, before⟩ := found
    obtain ⟨inner, outer, pieces, begun, skipped, ignored⟩ := pieces_of_splitName? split
    obtain ⟨-, named⟩ := splitName?_eq_some split
    rw [resolve_eq_arrive, resolve_eq_arrive, pieces_withFileName plain split, pieces,
      arrive_fillers named begun skipped ignored, arrive_concat plain, arrive_concat named,
      List.append_cancel_left_eq, List.cons.injEq, String.ofList_inj, Option.map_some,
      Option.some.injEq, and_iff_left rfl, eq_comm]

/-- A path whose last piece is a name leads to a file of that name. -/
lemma fileName?_of_pieces (plain : Plain name) (ended : pieces s = ps ++ [name]) :
    fileName? s = some name := by
  have left : dropFillers (pieces s).reverse = name :: ps.reverse := by
    rw [ended, List.reverse_concat]
    cases ps.reverse with
    | nil => rfl
    | cons piece more =>
      rw [dropFillers, if_neg (Bool.eq_false_iff.mp plain.solid)]
      exact List.cons_ne_nil piece more
  rw [fileName?, splitName?, left]
  dsimp only
  rw [if_neg (by simp [plain.solid, plain.downward])]
  rfl

/-- The name of a file is one piece. -/
lemma plain_of_fileName? (named : fileName? s = some name) : Plain name := by
  obtain ⟨⟨_, before⟩, split, rfl⟩ := Option.map_eq_some_iff.mp named
  exact (splitName?_eq_some split).2

/-- The name of a path is the one that was joined last. -/
lemma fileName?_join {name : String} (plain : Plain name.toList) (p : Path) :
    fileName? (p.join name).text.toList = some name.toList := by
  rw [join, String.toList_ofList]
  obtain ⟨-, joined⟩ | ⟨above, -, joined⟩ | ⟨-, -, joined⟩ := pieces_joinChars plain p.text.toList
  · exact fileName?_of_pieces plain (joined.trans (List.nil_append [name.toList]).symm)
  · exact fileName?_of_pieces plain joined
  · exact fileName?_of_pieces plain joined

end AppLifecycle.Path
