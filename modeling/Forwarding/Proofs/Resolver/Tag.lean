import Forwarding.Proofs.Text.Pieces
import Forwarding.Resolver.Span
import Mathlib.Data.List.Dedup
import Mathlib.Data.List.Nodup

/-!
The diagnostic tag as a code for sets of roles. It can be cut at its commas, although some of the
short names are parts of others, and what the pieces name are the roles that were found.
-/
namespace Forwarding

namespace Role

theorem nodup_all : all.Nodup := by decide

theorem nodup_shortNames : (all.map shortName).Nodup := by decide

theorem shortName_injective : Function.Injective shortName := fun role other h =>
  List.inj_on_of_nodup_map nodup_shortNames role.mem_all other.mem_all h

theorem comma_not_mem_shortName (role : Role) : ',' ∉ role.shortName := by
  cases role <;> decide

theorem shortName_ne_nil (role : Role) : role.shortName ≠ [] := by
  cases role <;> decide

/-- The first list holds the roles of the second, from the lowest priority to the highest. -/
structure Ranks (ranked found : List Role) : Prop where
  sublist : ranked.Sublist all.reverse
  mem_iff : ∀ role, role ∈ ranked ↔ role ∈ found

theorem ranks_filter (found : List Role) : Ranks (all.reverse.filter (· ∈ found)) found where
  sublist := List.filter_sublist
  mem_iff role := by simp [role.mem_all]

namespace Ranks

variable {ranked found : List Role}

theorem nodup (h : Ranks ranked found) : ranked.Nodup :=
  (List.nodup_reverse.mpr nodup_all).sublist h.sublist

theorem length_eq (h : Ranks ranked found) : ranked.length = found.dedup.length := by
  have hperm : ranked.Perm found.dedup := by
    rw [List.perm_ext_iff_of_nodup h.nodup found.nodup_dedup]
    intro role
    rw [h.mem_iff, List.mem_dedup]
  exact hperm.length_eq

theorem nodup_shortNames (h : Ranks ranked found) : (ranked.map shortName).Nodup :=
  h.nodup.map shortName_injective

/-- Cutting at the commas gives back the names that were joined. -/
theorem pieces_shortNames (h : ranked ≠ []) :
    Text.pieces ',' ([','].intercalate (ranked.map shortName)) = ranked.map shortName := by
  apply Text.pieces_intercalate
  · simpa using h
  · intro name hname
    obtain ⟨role, -, rfl⟩ := List.mem_map.mp hname
    exact role.comma_not_mem_shortName

end Ranks

end Role

variable {found first second : List Role} {tag : Text}

theorem multipleHeadersTag?_eq_none_iff :
    multipleHeadersTag? found = none ↔ found.dedup.length < 2 := by
  rw [← (Role.ranks_filter found).length_eq]
  simp [multipleHeadersTag?]

/-- A tag joins the short names of the roles of the list. -/
theorem exists_ranks_of_multipleHeadersTag? (h : multipleHeadersTag? found = some tag) :
    ∃ ranked, Role.Ranks ranked found ∧ ranked ≠ [] ∧
      tag = [','].intercalate (ranked.map Role.shortName) := by
  simp only [multipleHeadersTag?, Option.ite_none_left_eq_some, Option.some.injEq] at h
  obtain ⟨hseveral, hjoin⟩ := h
  refine ⟨_, Role.ranks_filter found, ?_, hjoin.symm⟩
  rintro hnil
  simp [hnil] at hseveral

theorem multipleHeadersTag?_congr (h : ∀ role, role ∈ first ↔ role ∈ second) :
    multipleHeadersTag? first = multipleHeadersTag? second := by
  simp only [multipleHeadersTag?, h]

/-- The tag is a faithful code. There is one exactly when two different roles were found. Two tags
are the same exactly for the same roles, in whatever order and however often these were found. The
pieces of a tag between its commas are the short names of the roles that were found and of no
others, each once, from the lowest priority to the highest, and none of them is empty. -/
theorem multipleHeadersTag?_faithful (first second : List Role) :
    (multipleHeadersTag? first = none ↔ first.dedup.length < 2) ∧
    (∀ tag ∈ multipleHeadersTag? first, ∀ tag' ∈ multipleHeadersTag? second,
      (tag = tag' ↔ ∀ role, role ∈ first ↔ role ∈ second)) ∧
    ∀ tag ∈ multipleHeadersTag? first,
      (∃ ranked, Role.Ranks ranked first ∧ Text.pieces ',' tag = ranked.map Role.shortName) ∧
        (Text.pieces ',' tag).Nodup ∧ [] ∉ Text.pieces ',' tag := by
  refine ⟨multipleHeadersTag?_eq_none_iff, ?_, ?_⟩
  · intro tag htag tag' htag'
    constructor
    · rintro rfl
      obtain ⟨ranked, hranks, hne, hjoin⟩ := exists_ranks_of_multipleHeadersTag? htag
      obtain ⟨ranked', hranks', hne', hjoin'⟩ := exists_ranks_of_multipleHeadersTag? htag'
      have hnames : ranked.map Role.shortName = ranked'.map Role.shortName := by
        rw [← Role.Ranks.pieces_shortNames hne, ← Role.Ranks.pieces_shortNames hne', ← hjoin, hjoin']
      have hsame : ranked = ranked' := Role.shortName_injective.list_map hnames
      intro role
      rw [← hranks.mem_iff, hsame, hranks'.mem_iff]
    · intro hsame
      apply Option.some.inj
      rw [← htag, ← htag', multipleHeadersTag?_congr hsame]
  · intro tag htag
    obtain ⟨ranked, hranks, hne, rfl⟩ := exists_ranks_of_multipleHeadersTag? htag
    rw [Role.Ranks.pieces_shortNames hne]
    refine ⟨⟨ranked, hranks, rfl⟩, hranks.nodup_shortNames, ?_⟩
    intro hmem
    obtain ⟨role, -, hnil⟩ := List.mem_map.mp hmem
    exact role.shortName_ne_nil hnil

/-- Three short names of which one is a part of both others, found in two orders and partly twice.
Without one of the roles the tag is another one. -/
theorem multipleHeadersTag?_faithful_overlapping :
    let first : List Role := [.forwardedFor, .xForwarded, .forwarded, .forwardedFor]
    let second : List Role := [.forwarded, .forwardedFor, .xForwarded]
    let fewer : List Role := [.forwarded, .forwardedFor]
    let tag : Text := "forwarded,forwarded-for,x-forwarded"
    multipleHeadersTag? first = some tag ∧ multipleHeadersTag? second = some tag ∧
      (∀ role, role ∈ first ↔ role ∈ second) ∧
      (∃ tag', multipleHeadersTag? fewer = some tag' ∧ tag ≠ tag') ∧
      (Text.pieces ',' tag).Nodup ∧ [] ∉ Text.pieces ',' tag := by
  intro first second fewer tag
  have hfirst : multipleHeadersTag? first = some tag := by decide
  have hsecond : multipleHeadersTag? second = some tag := by decide
  have hfewer : multipleHeadersTag? fewer = some "forwarded,forwarded-for".toList := by decide
  obtain ⟨-, hsame, hpieces⟩ := multipleHeadersTag?_faithful first second
  obtain ⟨-, hdiffer, -⟩ := multipleHeadersTag?_faithful first fewer
  obtain ⟨-, hnodup, hnonempty⟩ := hpieces tag hfirst
  refine ⟨hfirst, hsecond, (hsame tag hfirst tag hsecond).mp rfl, ⟨_, hfewer, ?_⟩, hnodup,
    hnonempty⟩
  intro heq
  have hmem := (hdiffer tag hfirst _ hfewer).mp heq .xForwarded
  simp [first, fewer] at hmem

end Forwarding
