import AppLifecycle.AppId
import Mathlib.Tactic.Lemma

/-!
# Short ids

A short id has no version to lose: shortening an id a second time changes nothing. An id is long if
it falls into three sections with underscores between them, each of which obeys its own rule
(`Long`); all other ids are as short as they get (`normalized_eq_self_iff`).
-/

namespace AppLifecycle

namespace AppId

variable {s : List Char}

/-! ## Sections -/

lemma splitSection_eq_self (h : '_' ∉ s) : splitSection s = (s, none) := by
  induction s with
  | nil => rfl
  | cons c s ih =>
    rw [List.mem_cons, not_or] at h
    obtain ⟨hc, hs⟩ := h
    rw [splitSection, ih hs]
    exact fun same => hc same.symm

lemma splitSection_append (h : '_' ∉ s) (t : List Char) :
    splitSection (s ++ '_' :: t) = (s, some t) := by
  induction s with
  | nil => rfl
  | cons c s ih =>
    rw [List.mem_cons, not_or] at h
    obtain ⟨hc, hs⟩ := h
    rw [List.cons_append, splitSection, ih hs]
    exact fun same => hc same.symm

lemma eq_append_of_splitSection {head tail : List Char} (h : splitSection s = (head, some tail)) :
    s = head ++ '_' :: tail := by
  induction s generalizing head with
  | nil => cases h
  | cons c s ih =>
    by_cases mark : c = '_'
    · subst mark
      cases h
      rfl
    · rw [splitSection] at h
      · cases hs : splitSection s with
        | mk rest after =>
          rw [hs] at h
          cases h
          rw [List.cons_append, ← ih hs]
      · exact mark

/-! ## Long ids -/

/-- A long id in its sections. -/
structure Long (s package app version : List Char) : Prop where
  text : s = package ++ '_' :: (app ++ '_' :: version)
  package : isPackage package = true
  app : isApp app = true
  version : isVersion version = true

/-- The id is a long one. -/
def IsLong (id : AppId) : Prop := ∃ package app version, Long id.text.toList package app version

lemma underscore_not_mem_of_all {p : Char → Bool} (h : s.all p = true) (hp : p '_' = false) :
    '_' ∉ s := by
  intro hmem
  have yes := List.all_eq_true.mp h _ hmem
  rw [hp] at yes
  cases yes

lemma underscore_not_mem_of_isPackage (h : isPackage s = true) : '_' ∉ s := by
  unfold isPackage at h
  rw [Bool.and_eq_true] at h
  exact underscore_not_mem_of_all h.2 (by decide)

lemma underscore_not_mem_of_isApp (h : isApp s = true) : '_' ∉ s := by
  unfold isApp at h
  rw [Bool.and_eq_true] at h
  exact underscore_not_mem_of_all h.2 (by decide)

/-- However an id is taken to be long, its short form is the same. -/
lemma Long.shortForm? {package app version : List Char} (h : Long s package app version) :
    shortForm? s = some (package ++ '_' :: app) := by
  unfold AppId.shortForm?
  -- neither the package nor the application holds an underscore, so that the splits are these
  rw [h.text, splitSection_append (underscore_not_mem_of_isPackage h.package)]
  dsimp only
  rw [splitSection_append (underscore_not_mem_of_isApp h.app)]
  dsimp only
  rw [h.package, h.app, h.version]
  rfl

lemma exists_long_of_shortForm? {short : List Char} (h : shortForm? s = some short) :
    ∃ package app version, Long s package app version ∧ short = package ++ '_' :: app := by
  unfold shortForm? at h
  split at h
  · rename_i package rest hpackage
    split at h
    · rename_i app version happ
      split at h
      · rename_i rules
        rw [Bool.and_eq_true, Bool.and_eq_true] at rules
        obtain ⟨⟨isPackage, isApp⟩, isVersion⟩ := rules
        refine ⟨package, app, version, ⟨?_, isPackage, isApp, isVersion⟩, (Option.some.inj h).symm⟩
        rw [eq_append_of_splitSection hpackage, eq_append_of_splitSection happ]
      · cases h
    · cases h
  · cases h

/-- A long id is its short form with a version behind it. -/
lemma eq_append_of_shortForm? {short : List Char} (h : shortForm? s = some short) :
    ∃ version, s = short ++ '_' :: version := by
  obtain ⟨package, app, version, long, rfl⟩ := exists_long_of_shortForm? h
  refine ⟨version, ?_⟩
  rw [long.text, List.append_assoc, List.cons_append]

/-- A short form has two sections. -/
lemma underscore_mem_shortForm? {short : List Char} (h : shortForm? s = some short) :
    '_' ∈ short := by
  obtain ⟨package, app, version, -, rfl⟩ := exists_long_of_shortForm? h
  exact List.mem_append_right _ List.mem_cons_self

/-- A short form is not long. -/
lemma shortForm?_shortForm? {short : List Char} (h : shortForm? s = some short) :
    shortForm? short = none := by
  obtain ⟨package, app, version, long, rfl⟩ := exists_long_of_shortForm? h
  unfold shortForm?
  rw [splitSection_append (underscore_not_mem_of_isPackage long.package)]
  dsimp only
  rw [splitSection_eq_self (underscore_not_mem_of_isApp long.app)]

/-! ## Shortening -/

lemma normalized_of_shortForm? {id : AppId} {short : List Char}
    (h : shortForm? id.text.toList = some short) : id.normalized = ⟨String.ofList short⟩ := by
  unfold normalized
  rw [h]

lemma normalized_of_none {id : AppId} (h : shortForm? id.text.toList = none) :
    id.normalized = id := by
  unfold normalized
  rw [h]

lemma isLong_iff (id : AppId) : id.IsLong ↔ (shortForm? id.text.toList).isSome = true := by
  constructor
  · rintro ⟨package, app, version, long⟩
    rw [long.shortForm?]
    rfl
  · intro long
    obtain ⟨short, h⟩ := Option.isSome_iff_exists.mp long
    obtain ⟨package, app, version, long, -⟩ := exists_long_of_shortForm? h
    exact ⟨package, app, version, long⟩

/-- Shortening an id twice is the same as shortening it once. -/
theorem normalized_normalized (id : AppId) : id.normalized.normalized = id.normalized := by
  cases h : shortForm? id.text.toList with
  | none => rw [normalized_of_none h, normalized_of_none h]
  | some short =>
    rw [normalized_of_shortForm? h]
    apply normalized_of_none
    rw [String.toList_ofList]
    exact shortForm?_shortForm? h

/-- The ids that are left as they are. -/
theorem normalized_eq_self_iff (id : AppId) : id.normalized = id ↔ ¬ id.IsLong := by
  rw [isLong_iff]
  cases h : shortForm? id.text.toList with
  | none => exact iff_of_true (normalized_of_none h) Bool.false_ne_true
  | some short =>
    refine iff_of_false (fun same => ?_) fun no => no rfl
    obtain ⟨version, split⟩ := eq_append_of_shortForm? h
    -- the short form would be as long as the id, but it lacks the version and its underscore
    rw [normalized_of_shortForm? h] at same
    have text : short = id.text.toList := by
      rw [← same, String.toList_ofList]
    have length := congrArg List.length (text.trans split)
    rw [List.length_append, List.length_cons] at length
    omega

/-- Shortening an id leaves its first section as it is. -/
theorem package_normalized (id : AppId) : id.normalized.package = id.package := by
  cases h : shortForm? id.text.toList with
  | none => rw [normalized_of_none h]
  | some short =>
    obtain ⟨package, app, version, long, rfl⟩ := exists_long_of_shortForm? h
    have clean := underscore_not_mem_of_isPackage long.package
    rw [normalized_of_shortForm? h]
    unfold AppId.package
    rw [String.toList_ofList, long.text, splitSection_append clean, splitSection_append clean]

/-- A shortened id is what the id begins with. -/
lemma normalized_prefix (id : AppId) : id.normalized.text.toList <+: id.text.toList := by
  cases h : shortForm? id.text.toList with
  | none => exact ⟨[], by rw [normalized_of_none h, List.append_nil]⟩
  | some short =>
    obtain ⟨version, split⟩ := eq_append_of_shortForm? h
    rw [normalized_of_shortForm? h, String.toList_ofList, split]
    exact List.prefix_append short _

lemma isEmpty_eq (id : AppId) : id.isEmpty = id.text.toList.isEmpty := by
  rw [isEmpty, Bool.eq_iff_iff, String.isEmpty_iff, List.isEmpty_iff, String.toList_eq_nil_iff]

lemma isEmpty_eq_false_of_mem {id : AppId} {c : Char} (mem : c ∈ id.text.toList) :
    id.isEmpty = false := by
  rw [isEmpty_eq, List.isEmpty_eq_false_iff]
  exact List.ne_nil_of_mem mem

/-- Shortening an id does not use it up. -/
theorem isEmpty_normalized (id : AppId) : id.normalized.isEmpty = id.isEmpty := by
  cases h : shortForm? id.text.toList with
  | none => rw [normalized_of_none h]
  | some short =>
    -- the underscore between the package and the application is left
    have left : '_' ∈ id.normalized.text.toList := by
      rw [normalized_of_shortForm? h, String.toList_ofList]
      exact underscore_mem_shortForm? h
    have before := id.normalized_prefix.subset left
    rw [isEmpty_eq_false_of_mem left, isEmpty_eq_false_of_mem before]

end AppId

end AppLifecycle
