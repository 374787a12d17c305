import Mathlib.Data.List.Basic

/-! # Regions in a row

Regions of an address space that follow one another with only background
between them, and the partition of the space that they amount to. -/

namespace Tiling

structure Region where
  offset : Int
  size : Int

def Region.stop (region : Region) : Int := region.offset + region.size

def Region.covers (region : Region) (address : Int) : Prop :=
  region.offset ≤ address ∧ address < region.stop

def Disjoint (left right : Region) : Prop :=
  ∀ address, ¬(left.covers address ∧ right.covers address)

theorem disjoint_symm {left right : Region} (disjoint : Disjoint left right) :
    Disjoint right left := by
  intro address both
  exact disjoint address ⟨both.2, both.1⟩

def Tiles (background : Int → Prop) :
    (cursor : Int) → (regions : List Region) → (final : Int) → Prop
  | cursor, [], final => cursor = final
  | cursor, region :: regions, final =>
      cursor ≤ region.offset ∧
        (∀ address, cursor ≤ address → address < region.offset →
          background address) ∧
        Tiles background region.stop regions final

/-- The addresses from `first` to `last` are those of the regions, each of one
region only, and background. -/
structure Partition (background : Int → Prop) (first : Int)
    (regions : List Region) (last : Int) : Prop where
  within : ∀ region ∈ regions, first ≤ region.offset ∧ region.stop ≤ last
  disjoint : regions.Pairwise Disjoint
  rest : ∀ address, first ≤ address → address < last →
    (∀ region ∈ regions, ¬region.covers address) → background address

variable {background : Int → Prop} {cursor final : Int} {regions : List Region}

theorem Partition.perm {others : List Region}
    (partition : Partition background cursor regions final)
    (perm : regions.Perm others) :
    Partition background cursor others final where
  within := fun region member => partition.within region (perm.mem_iff.mpr member)
  disjoint := (perm.pairwise_iff disjoint_symm).mp partition.disjoint
  rest := by
    intro address after before uncovered
    apply partition.rest address after before
    exact fun region member => uncovered region (perm.mem_iff.mp member)

theorem Tiles.le (tiles : Tiles background cursor regions final)
    (lengths : ∀ region ∈ regions, 0 ≤ region.size) : cursor ≤ final := by
  induction regions generalizing cursor with
  | nil => exact Int.le_of_eq tiles
  | cons region regions induction =>
      rcases tiles with ⟨follows, _, tail⟩
      have rest := induction tail fun other member =>
        lengths other (List.mem_cons_of_mem _ member)
      have length := lengths region List.mem_cons_self
      rw [Region.stop] at rest
      omega

theorem Tiles.partition (tiles : Tiles background cursor regions final)
    (lengths : ∀ region ∈ regions, 0 ≤ region.size) :
    Partition background cursor regions final := by
  induction regions generalizing cursor with
  | nil =>
      cases tiles
      exact ⟨nofun, .nil, fun _ after before => absurd before (by omega)⟩
  | cons region regions induction =>
      rcases tiles with ⟨follows, gap, tail⟩
      have length := lengths region List.mem_cons_self
      have others : ∀ other ∈ regions, 0 ≤ other.size := fun other member =>
        lengths other (List.mem_cons_of_mem _ member)
      have rest := induction tail others
      have ends := tail.le others
      have stop : region.stop = region.offset + region.size := rfl
      constructor
      · intro other member
        rcases List.mem_cons.mp member with rfl | later
        · exact ⟨follows, ends⟩
        · have within := rest.within other later
          exact ⟨by omega, within.2⟩
      · rw [List.pairwise_cons]
        refine ⟨?_, rest.disjoint⟩
        intro other later address both
        have within := rest.within other later
        have first := both.1.2
        have second := both.2.1
        omega
      · intro address after before uncovered
        by_cases early : address < region.offset
        · exact gap address after early
        · apply rest.rest address _ before
          · exact fun other later =>
              uncovered other (List.mem_cons_of_mem _ later)
          · have outside := uncovered region List.mem_cons_self
            rw [Region.covers] at outside
            omega

/-- In order of their offsets, the regions of a partition follow one another. -/
theorem Partition.tiles (partition : Partition background cursor regions final)
    (sorted : regions.Pairwise fun left right => left.offset ≤ right.offset)
    (lengths : ∀ region ∈ regions, 0 < region.size)
    (ends : regions = [] ∧ cursor = final ∨
      ∃ region ∈ regions, region.stop = final) :
    Tiles background cursor regions final := by
  induction regions generalizing cursor with
  | nil =>
      rcases ends with ⟨_, same⟩ | ⟨region, member, _⟩
      · exact same
      · cases member
  | cons region regions induction =>
      rcases List.pairwise_cons.mp sorted with ⟨least, sortedRest⟩
      rcases List.pairwise_cons.mp partition.disjoint with ⟨apart, disjoint⟩
      have length := lengths region List.mem_cons_self
      have here := partition.within region List.mem_cons_self
      have stop : region.stop = region.offset + region.size := rfl
      have behind : ∀ other ∈ regions, region.stop ≤ other.offset := by
        intro other later
        by_contra inside
        have otherLength := lengths other (List.mem_cons_of_mem _ later)
        have otherStop : other.stop = other.offset + other.size := rfl
        apply apart other later other.offset
        exact ⟨⟨least other later, by omega⟩, by omega, by omega⟩
      have rest : Partition background region.stop regions final := by
        refine ⟨?_, disjoint, ?_⟩
        · exact fun other later => ⟨behind other later,
            (partition.within other (List.mem_cons_of_mem _ later)).2⟩
        · intro address after before uncovered
          apply partition.rest address (by omega) before
          intro other member covered
          rcases List.mem_cons.mp member with rfl | later
          · exact absurd covered.2 (by omega)
          · exact uncovered other later covered
      have last : regions = [] ∧ region.stop = final ∨
          ∃ other ∈ regions, other.stop = final := by
        rcases ends with ⟨none, _⟩ | ⟨other, member, same⟩
        · cases none
        · rcases List.mem_cons.mp member with rfl | later
          · cases regions with
            | nil => exact .inl ⟨rfl, same⟩
            | cons next regions =>
                have nextBehind := behind next List.mem_cons_self
                have nextLength := lengths next (by simp)
                have nextStop : next.stop = next.offset + next.size := rfl
                have nextWithin := (partition.within next (by simp)).2
                omega
          · exact .inr ⟨other, later, same⟩
      refine ⟨here.1, ?_, ?_⟩
      · intro address after before
        apply partition.rest address after (by omega)
        intro other member covered
        have low := covered.1
        rcases List.mem_cons.mp member with rfl | later
        · omega
        · have order := least other later
          omega
      · exact induction rest sortedRest
          (fun other later => lengths other (List.mem_cons_of_mem _ later)) last

end Tiling
