import AppLifecycle.CommandLine
import AppLifecycle.Proofs.Text.Utf8
import Mathlib.Data.List.Infix
import Mathlib.Tactic.Lemma

/-!
# What a command line says

How a program is called, what occurs in its command line and what its arguments hint at, in terms of
the arguments and not of the search through them; and what can be read back of the arguments that the
system keeps (`args_ofBytes_kept`).
-/

namespace AppLifecycle

namespace CommandLine

variable {c : CommandLine} {hint value : String}

lemma occursIn_iff (piece s : List Char) : occursIn piece s = true ↔ piece <:+: s := by
  induction s with
  | nil =>
    rw [occursIn, List.isEmpty_iff, List.infix_nil]
  | cons c rest ih =>
    rw [occursIn, Bool.or_eq_true, List.isPrefixOf_iff_prefix, ih, List.infix_cons_iff]

lemma dropStart?_eq_some_iff (start s rest : List Char) :
    dropStart? start s = some rest ↔ s = start ++ rest := by
  induction start generalizing s with
  | nil => simp [dropStart?]
  | cons p ps ih =>
    cases s with
    | nil => simp [dropStart?]
    | cons c cs =>
      rw [dropStart?, List.cons_append, List.cons_eq_cons]
      by_cases same : p = c
      · rw [if_pos same, ih]
        exact (and_iff_right same.symm).symm
      · rw [if_neg same]
        exact iff_of_false (by simp) fun both => same both.1.symm

lemma startsWith_iff (c : CommandLine) (start : String) : c.startsWith start = true ↔
    ∃ program rest, c.args = program :: rest ∧ start.toList <+: program.toList := by
  unfold startsWith
  cases args : c.args with
  | nil => simp
  | cons program rest =>
    rw [List.head?_cons, Option.any_some, List.isPrefixOf_iff_prefix]
    constructor
    · intro called
      exact ⟨program, rest, rfl, called⟩
    · rintro ⟨program', rest', same, called⟩
      cases same
      exact called

lemma contains_iff (c : CommandLine) (piece : String) :
    c.contains piece = true ↔ piece.toList <:+: c.joined.toList := occursIn_iff _ _

/-- The first argument that begins with `hint` goes on with `value`. -/
def Hints (c : CommandLine) (hint value : String) : Prop :=
  ∃ before after, c.args = before ++ (hint ++ value) :: after ∧
    ∀ arg ∈ before, ¬ hint.toList <+: arg.toList

/-- What an argument hints at. -/
lemma hint_of_arg (hint value arg : String) :
    (dropStart? hint.toList arg.toList).map String.ofList = some value ↔ arg = hint ++ value := by
  rw [Option.map_eq_some_iff, ← String.toList_inj, String.toList_append]
  constructor
  · rintro ⟨rest, found, rfl⟩
    rw [String.toList_ofList]
    exact (dropStart?_eq_some_iff _ _ _).mp found
  · intro same
    exact ⟨value.toList, (dropStart?_eq_some_iff _ _ _).mpr same, String.ofList_toList⟩

lemma no_hint_of_arg (hint arg : String) :
    (dropStart? hint.toList arg.toList).map String.ofList = none ↔
      ¬ hint.toList <+: arg.toList := by
  rw [Option.map_eq_none_iff, Option.eq_none_iff_forall_ne_some]
  constructor
  · rintro none ⟨rest, same⟩
    exact none rest ((dropStart?_eq_some_iff _ _ _).mpr same.symm)
  · intro other rest found
    exact other ⟨rest, ((dropStart?_eq_some_iff _ _ _).mp found).symm⟩

theorem valueOf_eq_some_iff : c.valueOf hint = some value ↔ c.Hints hint value := by
  unfold valueOf Hints
  rw [List.findSome?_eq_some_iff]
  constructor
  · rintro ⟨before, arg, after, args, found, first⟩
    rw [hint_of_arg] at found
    subst found
    refine ⟨before, after, args, fun other hother => ?_⟩
    rw [← no_hint_of_arg]
    exact first other hother
  · rintro ⟨before, after, args, first⟩
    refine ⟨before, _, after, args, (hint_of_arg _ _ _).mpr rfl, fun other hother => ?_⟩
    rw [no_hint_of_arg]
    exact first other hother

/-- Whether an argument hints at something can be told. -/
instance (c : CommandLine) (hint value : String) : Decidable (c.Hints hint value) :=
  decidable_of_iff _ valueOf_eq_some_iff

/-! ## What the system keeps of the arguments -/

/-- The bytes that the system keeps: each argument, with a zero byte behind it. -/
def kept (args : List String) : List UInt8 :=
  args.flatMap fun arg => arg.toUTF8.toList ++ [0]

/-- The piece before the first zero byte. -/
lemma splitZeros_piece {piece : List UInt8} (plain : 0 ∉ piece) (rest : List UInt8) :
    splitZeros (piece ++ 0 :: rest) = piece :: splitZeros rest := by
  induction piece with
  | nil => exact if_pos rfl
  | cons b piece ih =>
    rw [List.mem_cons, not_or] at plain
    rw [List.cons_append, splitZeros, if_neg (Ne.symm plain.1), ih plain.2]

/-- The zero byte behind the last argument leaves an empty piece after it. -/
lemma splitZeros_kept {args : List String} (plain : ∀ arg ∈ args, '\x00' ∉ arg.toList) :
    splitZeros (kept args) = args.map (fun arg => arg.toUTF8.toList) ++ [[]] := by
  induction args with
  | nil => rfl
  | cons arg args ih =>
    have one : 0 ∉ arg.toUTF8.toList := by
      rw [Text.toList_toUTF8]
      exact fun mem => plain arg List.mem_cons_self (Text.mem_of_mem_encode (by decide) mem)
    have others := ih fun other mem => plain other (List.mem_cons_of_mem arg mem)
    rw [kept, List.flatMap_cons, List.append_assoc, List.singleton_append, splitZeros_piece one,
      ← kept, others]
    rfl

/-- The pieces that are not empty are those of the arguments that are not. -/
lemma isEmpty_toUTF8 (arg : String) : arg.toUTF8.toList.isEmpty = decide (arg = "") := by
  rw [Bool.eq_iff_iff, List.isEmpty_iff, decide_eq_true_iff, Text.toList_toUTF8,
    Text.encode_eq_nil, String.toList_eq_nil_iff]

/-- Of the arguments that the system keeps, those can be read back that are not empty, in their
order and as they were. -/
theorem args_ofBytes_kept {args : List String} (plain : ∀ arg ∈ args, '\x00' ∉ arg.toList) :
    (ofBytes (kept args)).args = args.filter (· ≠ "") := by
  have whole (arg : String) : Text.decodeLossy arg.toUTF8.toList = arg := by
    rw [Text.toList_toUTF8, Text.decodeLossy_encode, String.ofList_toList]
  have last : [([] : List UInt8)].filter (!·.isEmpty) = [] := rfl
  unfold ofBytes
  rw [splitZeros_kept plain, List.filter_append, last, List.append_nil, List.filter_map,
    List.map_map]
  simp only [Function.comp_def, whole, isEmpty_toUTF8, List.map_id', decide_not]

end CommandLine

end AppLifecycle
