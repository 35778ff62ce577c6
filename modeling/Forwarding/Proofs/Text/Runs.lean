import Forwarding.Text.Basic
import Mathlib.Data.List.Forall2
import Mathlib.Data.List.TakeWhile

/-!
Patterns that are rows of runs of characters. A match from the front of a text takes each run as
long as it can and gives characters back when the runs behind it do not match. A run gives nothing
back when the next one cannot begin with its characters.
-/
namespace Forwarding.Text

/-- A run of characters of one class, of at least the given length. -/
structure Run where
  holds : Char → Bool
  least : Nat

namespace Run

structure Fits (run : Run) (part : Text) : Prop where
  all : ∀ c ∈ part, run.holds c
  long : run.least ≤ part.length

end Run

/-- The ways to take a run from the front of a text, the longest first: what is taken and what is
left. -/
def takes (holds : Char → Bool) : Nat → Text → List (Text × Text)
  | least, [] => if least = 0 then [([], [])] else []
  | least, c :: rest =>
    (if holds c then (takes holds (least - 1) rest).map fun way => (c :: way.1, way.2) else [])
      ++ if least = 0 then [([], c :: rest)] else []

/-- All matches of a row of runs from the front of a text, each with its parts, in the order in
which a search with backtracking finds them. -/
def allMatches : List Run → Text → List (List Text)
  | [], _ => [[]]
  | run :: runs, t =>
    (takes run.holds run.least t).flatMap fun way => (allMatches runs way.2).map (way.1 :: ·)

def firstMatch? (runs : List Run) (t : Text) : Option (List Text) := (allMatches runs t).head?

variable {holds : Char → Bool} {least : Nat} {t taken left : Text}

theorem mem_takes_cons {c : Char} {rest : Text} {way : Text × Text} :
    way ∈ takes holds least (c :: rest) ↔
      (holds c ∧ ∃ shorter ∈ takes holds (least - 1) rest, (c :: shorter.1, shorter.2) = way) ∨
        least = 0 ∧ way = ([], c :: rest) := by
  by_cases hc : holds c <;> by_cases hleast : least = 0 <;> simp [takes, hc, hleast]

/-- The ways to take a run are all ways to cut the text behind characters of the class. -/
theorem mem_takes_iff :
    (taken, left) ∈ takes holds least t ↔
      t = taken ++ left ∧ (∀ c ∈ taken, holds c) ∧ least ≤ taken.length := by
  induction t generalizing least taken with
  | nil =>
    by_cases hleast : least = 0
    · simp +contextual [takes, hleast, and_assoc]
    · simp only [takes, hleast, if_false, List.not_mem_nil, false_iff]
      rintro ⟨hsplit, -, hlong⟩
      obtain ⟨rfl, rfl⟩ := List.append_eq_nil_iff.mp hsplit.symm
      exact hleast (Nat.le_zero.mp hlong)
  | cons c rest ih =>
    rw [mem_takes_cons]
    constructor
    · rintro (⟨hc, ⟨others, left⟩, hway, hsame⟩ | ⟨rfl, hsame⟩)
      · obtain ⟨rfl, rfl⟩ := Prod.mk.inj hsame
        obtain ⟨rfl, hall, hlong⟩ := ih.mp hway
        refine ⟨rfl, List.forall_mem_cons.mpr ⟨hc, hall⟩, ?_⟩
        show least ≤ others.length + 1
        omega
      · obtain ⟨rfl, rfl⟩ := Prod.mk.inj hsame
        simp
    · rintro ⟨hsplit, hall, hlong⟩
      cases taken with
      | nil =>
        obtain rfl : c :: rest = left := hsplit
        exact Or.inr ⟨Nat.le_zero.mp hlong, rfl⟩
      | cons d others =>
        obtain ⟨rfl, rfl⟩ := List.cons.inj hsplit
        obtain ⟨hc, hothers⟩ := List.forall_mem_cons.mp hall
        rw [List.length_cons] at hlong
        exact Or.inl ⟨hc, (others, left), ih.mpr ⟨rfl, hothers, by omega⟩, rfl⟩

/-- The matches of a row of runs are the rows of fitting parts that stand in front of the text. -/
theorem mem_allMatches_iff {runs : List Run} {parts : List Text} :
    parts ∈ allMatches runs t ↔ parts.flatten <+: t ∧ List.Forall₂ Run.Fits runs parts := by
  induction runs generalizing t parts with
  | nil => cases parts <;> simp [allMatches]
  | cons run runs ih =>
    simp only [allMatches, List.mem_flatMap, List.mem_map, Prod.exists, mem_takes_iff, ih]
    constructor
    · rintro ⟨taken, left, ⟨rfl, hall, hlong⟩, parts, ⟨hfront, hfits⟩, rfl⟩
      refine ⟨?_, .cons ⟨hall, hlong⟩ hfits⟩
      rw [List.flatten_cons]
      exact (List.prefix_append_right_inj taken).mpr hfront
    · rintro ⟨⟨rest, rfl⟩, hfits⟩
      cases hfits with
      | @cons _ part _ parts hpart hparts =>
        refine ⟨part, parts.flatten ++ rest, ⟨by simp, hpart.all, hpart.long⟩, parts, ⟨?_, hparts⟩, rfl⟩
        exact List.prefix_append _ _

theorem head?_takes :
    (takes holds least t).head? =
      if least ≤ (t.takeWhile holds).length then some (t.takeWhile holds, t.dropWhile holds)
      else none := by
  induction t generalizing least with
  | nil => by_cases hleast : least = 0 <;> simp [takes, hleast]
  | cons c rest ih =>
    by_cases hc : holds c
    · have hshorter : least - 1 ≤ (rest.takeWhile holds).length ↔
          least ≤ (rest.takeWhile holds).length + 1 := by omega
      by_cases hlong : least ≤ (rest.takeWhile holds).length + 1
      · simp [takes, hc, ih, hshorter, hlong, List.head?_append]
      · have hleast : least ≠ 0 := by omega
        simp [takes, hc, ih, hshorter, hlong, hleast]
    · by_cases hleast : least = 0 <;> simp [takes, hc, hleast]

/-- When no search goes on from a text that begins with a character of the run, only the longest way
to take the run counts. -/
theorem flatMap_takes {α : Type} {next : Text × Text → List α}
    (hnext : ∀ taken c rest, holds c → next (taken, c :: rest) = []) :
    (takes holds least t).flatMap next =
      if least ≤ (t.takeWhile holds).length then next (t.takeWhile holds, t.dropWhile holds)
      else [] := by
  induction t generalizing least next with
  | nil => by_cases hleast : least = 0 <;> simp [takes, hleast]
  | cons c rest ih =>
    by_cases hc : holds c
    · have hshorter : least - 1 ≤ (rest.takeWhile holds).length ↔
          least ≤ (rest.takeWhile holds).length + 1 := by omega
      have hgiven : (if least = 0 then [(([] : Text), c :: rest)] else []).flatMap next = [] := by
        by_cases hleast : least = 0 <;> simp [hleast, hnext [] c rest hc]
      rw [takes, List.flatMap_append, hgiven, if_pos hc, List.flatMap_map, List.append_nil,
        ih fun taken d rest hd => hnext (c :: taken) d rest hd]
      simp [hc, hshorter]
    · by_cases hleast : least = 0 <;> simp [takes, hc, hleast]

/-- A run gives nothing back to a next one that must begin with another character. -/
theorem allMatches_cons_cons {other : Char → Bool} {count : Nat} {runs : List Run}
    (hcount : 0 < count) (hother : ∀ c, holds c → other c = false) (least : Nat) (t : Text) :
    allMatches (⟨holds, least⟩ :: ⟨other, count⟩ :: runs) t =
      if least ≤ (t.takeWhile holds).length then
        (allMatches (⟨other, count⟩ :: runs) (t.dropWhile holds)).map (t.takeWhile holds :: ·)
      else [] := by
  rw [allMatches, flatMap_takes]
  intro taken c rest hc
  have hnone : takes other count (c :: rest) = [] := by
    simp [takes, hother c hc, Nat.ne_of_gt hcount]
  simp [allMatches, hnone]

theorem allMatches_singleton (holds : Char → Bool) (least : Nat) (t : Text) :
    allMatches [⟨holds, least⟩] t = (takes holds least t).map fun way => [way.1] := by
  simp [allMatches, List.map_eq_flatMap]

end Forwarding.Text
