import Mathlib.Data.List.Chain
import Mathlib.Order.Lattice

/-! Splitting a list into its blocks: maximal stretches of admitted elements each of which is joined
to the next. The last block is characterised without the loop that finds it. -/
namespace TcdOran.Lib

variable {α : Type} {admitted : α → Bool} {joined : α → α → Bool}

variable (admitted joined) in
/-- The blocks behind those that are closed; `current` is the one that is open. -/
def splitBlocks (blocks : List (List α)) (current : List α) : List α → List (List α)
  | [] => if current = [] then blocks else blocks ++ [current]
  | x :: xs =>
      if admitted x = false then
        splitBlocks (if current = [] then blocks else blocks ++ [current]) [] xs
      else if current.getLast?.any fun last => !joined last x then
        splitBlocks (blocks ++ [current]) [x] xs
      else splitBlocks blocks (current ++ [x]) xs

variable (admitted joined) in
/-- A stretch of admitted elements that are joined and that the elements before it do not extend. -/
structure Block (before block : List α) : Prop where
  all : ∀ x ∈ block, admitted x = true
  chain : block.IsChain fun x y => joined x y = true
  maximal : ∀ last ∈ before.getLast?, ∀ first ∈ block.head?,
    ¬(admitted last = true ∧ joined last first = true)

variable (admitted joined) in
/-- The block behind which no element is admitted; the empty list where none is. -/
structure LastBlock (xs block : List α) : Prop where
  parts : ∃ before after, xs = before ++ block ++ after ∧ Block admitted joined before block ∧
    ∀ x ∈ after, admitted x = false
  empty : block = [] → ∀ x ∈ xs, admitted x = false

theorem LastBlock.extend {xs block : List α} (h : LastBlock admitted joined xs block) {x : α}
    (hx : admitted x = false) : LastBlock admitted joined (xs ++ [x]) block := by
  obtain ⟨before, after, hxs, hblock, hafter⟩ := h.parts
  refine ⟨⟨before, after ++ [x], ?_, hblock, ?_⟩, ?_⟩
  · rw [hxs, List.append_assoc _ after]
  · intro y hy
    rcases List.mem_append.mp hy with hy | hy
    · exact hafter y hy
    · rwa [List.mem_singleton.mp hy]
  · intro hnil y hy
    rcases List.mem_append.mp hy with hy | hy
    · exact h.empty hnil y hy
    · rwa [List.mem_singleton.mp hy]

theorem LastBlock.closed {before block : List α} (h : Block admitted joined before block)
    (hne : block ≠ []) : LastBlock admitted joined (before ++ block) block :=
  ⟨⟨before, [], by simp, h, by simp⟩, fun hnil => absurd hnil hne⟩

/-- Where the loop stands behind a part of the list. -/
inductive Splits (done : List α) : List (List α) → List α → Prop
  | opened {blocks : List (List α)} {current : List α} (before : List α) :
      done = before ++ current → current ≠ [] → Block admitted joined before current →
      Splits done blocks current
  | between {blocks : List (List α)} : LastBlock admitted joined done (blocks.getLast?.getD []) →
      (∀ last ∈ done.getLast?, admitted last = false) → Splits done blocks []

theorem Block.single {before : List α} {x : α} (hx : admitted x = true)
    (hlast : ∀ last ∈ before.getLast?, admitted last = true → joined last x = false) :
    Block admitted joined before [x] := by
  refine ⟨by simpa using hx, .singleton x, ?_⟩
  intro last hmem first hfirst ⟨hadmitted, hjoined⟩
  obtain rfl : x = first := by simpa using hfirst
  rw [hlast last hmem hadmitted] at hjoined
  cases hjoined

theorem Block.append {before current : List α} (h : Block admitted joined before current)
    (hne : current ≠ []) {x : α} (hx : admitted x = true)
    (hlast : ∀ last ∈ current.getLast?, joined last x = true) :
    Block admitted joined before (current ++ [x]) := by
  refine ⟨?_, ?_, ?_⟩
  · intro y hy
    rcases List.mem_append.mp hy with hy | hy
    · exact h.all y hy
    · rwa [List.mem_singleton.mp hy]
  · rw [List.isChain_append]
    refine ⟨h.chain, .singleton x, ?_⟩
    intro last hmem first hfirst
    obtain rfl : x = first := by simpa using hfirst
    exact hlast last hmem
  · intro last hmem first hfirst
    rw [List.head?_append_of_ne_nil _ hne] at hfirst
    exact h.maximal last hmem first hfirst

theorem splitBlocks_last {blocks : List (List α)} {current xs done : List α}
    (h : @Splits α admitted joined done blocks current) :
    LastBlock admitted joined (done ++ xs)
      ((splitBlocks admitted joined blocks current xs).getLast?.getD []) := by
  induction xs generalizing blocks current done with
  | nil =>
    rw [List.append_nil, splitBlocks]
    cases h with
    | opened before hdone hne hblock =>
      rw [if_neg hne, hdone]
      simpa using LastBlock.closed hblock hne
    | between hlast _ => rwa [if_pos rfl]
  | cons x xs ih =>
    have hsplit : done ++ x :: xs = done ++ [x] ++ xs := by simp
    rw [hsplit, splitBlocks]
    split_ifs with hx hnil hgap
    · cases h with
      | opened _ _ hne _ => exact absurd hnil hne
      | between hlast _ => exact ih (.between (hlast.extend hx) (by simpa using hx))
    · cases h with
      | opened before hdone hne hblock =>
        apply ih
        refine .between ?_ (by simpa using hx)
        rw [hdone]
        simpa using (LastBlock.closed hblock hne).extend hx
      | between _ _ => exact absurd rfl hnil
    · have hx' : admitted x = true := by simpa using hx
      cases h with
      | opened before hdone hne hblock =>
        refine ih (.opened done rfl (by simp) (.single hx' ?_))
        intro last hmem _
        rw [hdone, List.getLast?_append_of_ne_nil _ hne] at hmem
        rw [Option.mem_def.mp hmem] at hgap
        simpa using hgap
      | between _ _ => simp at hgap
    · have hx' : admitted x = true := by simpa using hx
      cases h with
      | opened before hdone hne hblock =>
        refine ih (.opened before (by rw [hdone, List.append_assoc]) (by simp)
          (hblock.append hne hx' ?_))
        intro last hmem
        rw [Option.mem_def.mp hmem] at hgap
        simpa using hgap
      | between _ hlast =>
        refine ih (.opened done rfl (by simp) (.single hx' ?_))
        intro last hmem hadmitted
        rw [hlast last hmem] at hadmitted
        cases hadmitted

/-! ### There is one last block only -/

/-- Two suffixes of a list are equal where neither extends the other. -/
theorem suffix_eq {front front' rest rest' : List α} (h : front ++ rest = front' ++ rest')
    (hleft : ∀ c ≠ [], front = front' ++ c → rest' = c ++ rest → False)
    (hright : ∀ c ≠ [], front' = front ++ c → rest = c ++ rest' → False) : rest = rest' := by
  rcases List.append_eq_append_iff.mp h with ⟨c, hfront, hrest⟩ | ⟨c, hfront, hrest⟩
  · by_cases hc : c = []
    · rw [hrest, hc, List.nil_append]
    · exact (hright c hc hfront hrest).elim
  · by_cases hc : c = []
    · rw [hrest, hc, List.nil_append]
    · exact (hleft c hc hfront hrest).elim

/-- What is not admitted cannot reach into a block. -/
theorem Block.not_cut {before block front c rest : List α} (h : Block admitted joined before block)
    (hne : block ≠ []) (hc : c ≠ []) (hfront : before ++ block = front ++ c)
    (hrest : ∀ x ∈ c ++ rest, admitted x = false) : False := by
  have hlast : c.getLast hc = block.getLast hne := by
    have hends := congrArg List.getLast? hfront
    rw [List.getLast?_append_of_ne_nil _ hne, List.getLast?_append_of_ne_nil _ hc,
      List.getLast?_eq_some_getLast hne, List.getLast?_eq_some_getLast hc] at hends
    exact (Option.some.inj hends).symm
  have hadmitted := h.all _ (List.getLast_mem hne)
  have hnot := hrest _ (List.mem_append_left rest (List.getLast_mem hc))
  rw [hlast, hadmitted] at hnot
  cases hnot

/-- A block does not extend another one to the front. -/
theorem Block.not_extended {before before' block block' c : List α}
    (h : Block admitted joined before block) (h' : Block admitted joined before' block')
    (hne : block ≠ []) (hc : c ≠ []) (hbefore : before = before' ++ c) (hblock : block' = c ++ block) :
    False := by
  have hlast : before.getLast? = some (c.getLast hc) := by
    rw [hbefore, List.getLast?_append_of_ne_nil _ hc, List.getLast?_eq_some_getLast hc]
  have hfirst : block.head? = some (block.head hne) := List.head?_eq_some_head hne
  refine h.maximal _ hlast _ hfirst ⟨h'.all _ ?_, ?_⟩
  · rw [hblock]
    exact List.mem_append_left _ (List.getLast_mem hc)
  · have hchain := h'.chain
    rw [hblock, List.isChain_append] at hchain
    exact hchain.2.2 _ (List.getLast?_eq_some_getLast hc) _ hfirst

theorem LastBlock.unique {xs block block' : List α} (h : LastBlock admitted joined xs block)
    (h' : LastBlock admitted joined xs block') : block = block' := by
  obtain ⟨before, after, hxs, hblock, hafter⟩ := h.parts
  obtain ⟨before', after', hxs', hblock', hafter'⟩ := h'.parts
  have hempty {block block' : List α} (hnil : block = []) (h : LastBlock admitted joined xs block)
      (h' : ∀ x ∈ block', admitted x = true) (hmem : ∀ x ∈ block', x ∈ xs) : block' = [] := by
    rw [List.eq_nil_iff_forall_not_mem]
    intro x hx
    have hnot := h.empty hnil x (hmem x hx)
    rw [h' x hx] at hnot
    cases hnot
  by_cases hne : block = []
  · rw [hne, hempty hne h hblock'.all fun x hx => hxs' ▸ by simp [hx]]
  by_cases hne' : block' = []
  · rw [hne', hempty hne' h' hblock.all fun x hx => hxs ▸ by simp [hx]]
  have hafters : after = after' := by
    apply suffix_eq (hxs.symm.trans hxs')
    · intro c hc hfront hrest
      rw [hrest] at hafter'
      exact hblock.not_cut hne hc hfront hafter'
    · intro c hc hfront hrest
      rw [hrest] at hafter
      exact hblock'.not_cut hne' hc hfront hafter
  rw [hxs, hafters] at hxs'
  apply suffix_eq (List.append_cancel_right hxs')
  · exact fun c hc hbefore hrest => hblock.not_extended hblock' hne hc hbefore hrest
  · exact fun c hc hbefore hrest => hblock'.not_extended hblock hne' hc hbefore hrest

theorem length_filter_eq_one_iff {β : Type} [LinearOrder β] {p : β → Bool} {xs : List β}
    (h : xs.Pairwise (· < ·)) : (xs.filter p).length = 1 ↔ ∃! x, x ∈ xs ∧ p x = true := by
  have hsorted := h.filter p
  constructor
  · intro hone
    obtain ⟨x, hx⟩ := List.length_eq_one_iff.mp hone
    have hmem : ∀ y, y ∈ xs ∧ p y = true ↔ y = x := fun y => by
      rw [← List.mem_filter, hx, List.mem_singleton]
    exact ⟨x, (hmem x).mpr rfl, fun y hy => (hmem y).mp hy⟩
  · rintro ⟨x, hx, hunique⟩
    have hall : ∀ y ∈ xs.filter p, y = x := fun y hy => hunique y (List.mem_filter.mp hy)
    have hmem := List.mem_filter.mpr hx
    cases hfilter : xs.filter p with
    | nil => simp [hfilter] at hmem
    | cons y rest =>
      cases rest with
      | nil => rfl
      | cons z rest =>
        rw [hfilter] at hall hsorted
        have hlt : y < z := List.rel_of_pairwise_cons hsorted (List.mem_cons_self ..)
        rw [hall y (by simp), hall z (by simp)] at hlt
        exact absurd hlt (lt_irrefl x)

theorem two_le_length_filter_iff {β : Type} [LinearOrder β] {p : β → Bool} {xs : List β}
    (h : xs.Pairwise (· < ·)) :
    2 ≤ (xs.filter p).length ↔ ∃ x ∈ xs, ∃ y ∈ xs, x < y ∧ p x = true ∧ p y = true := by
  have hsorted := h.filter p
  constructor
  · intro htwo
    cases hfilter : xs.filter p with
    | nil => simp [hfilter] at htwo
    | cons x rest =>
      cases rest with
      | nil => simp [hfilter] at htwo
      | cons y rest =>
        obtain ⟨hx, hpx⟩ := List.mem_filter.mp (show x ∈ xs.filter p by simp [hfilter])
        obtain ⟨hy, hpy⟩ := List.mem_filter.mp (show y ∈ xs.filter p by simp [hfilter])
        rw [hfilter] at hsorted
        exact ⟨x, hx, y, hy, List.rel_of_pairwise_cons hsorted (List.mem_cons_self ..), hpx, hpy⟩
  · rintro ⟨x, hx, y, hy, hlt, hpx, hpy⟩
    have hmemx := List.mem_filter.mpr ⟨hx, hpx⟩
    have hmemy := List.mem_filter.mpr ⟨hy, hpy⟩
    by_contra hfew
    obtain ⟨z, hz⟩ := List.length_eq_one_iff.mp
      (show (xs.filter p).length = 1 from le_antisymm (by omega) (List.length_pos_of_mem hmemx))
    rw [hz, List.mem_singleton] at hmemx hmemy
    rw [hmemx, hmemy] at hlt
    exact lt_irrefl z hlt

/-! ### A sorted list and a bound -/

theorem split_at_bound {key : α → ℤ} {xs : List α} (h : xs.Pairwise fun x y => key x ≤ key y)
    (bound : ℤ) : ∃ below above, xs = below ++ above ∧ (∀ x ∈ below, key x ≤ bound) ∧
      ∀ x ∈ above, bound < key x := by
  induction h with
  | nil => exact ⟨[], [], by simp⟩
  | @cons x xs hx _ ih =>
    obtain ⟨below, above, rfl, hbelow, habove⟩ := ih
    by_cases hkey : key x ≤ bound
    · exact ⟨x :: below, above, rfl, List.forall_mem_cons.mpr ⟨hkey, hbelow⟩, habove⟩
    · refine ⟨[], x :: (below ++ above), rfl, by simp, List.forall_mem_cons.mpr ⟨by omega, ?_⟩⟩
      intro y hy
      have := hx y hy
      omega

/-- A stretch of a sorted list stays below a bound where its end does. -/
theorem stretch_below_iff {key : α → ℤ} {xs : List α} (h : xs.Pairwise fun x y => key x ≤ key y)
    {bound : ℤ} {m n : ℕ} (hmn : m < n) (hn : n ≤ xs.length) :
    (∀ x ∈ (xs.take n).drop m, key x ≤ bound) ↔ n ≤ xs.countP fun x => key x ≤ bound := by
  obtain ⟨below, above, rfl, hbelow, habove⟩ := split_at_bound h bound
  have hcount : (below ++ above).countP (fun x => key x ≤ bound) = below.length := by
    rw [List.countP_append, List.countP_eq_length.mpr fun x hx => decide_eq_true (hbelow x hx),
      List.countP_eq_zero.mpr fun x hx => by simpa using habove x hx, Nat.add_zero]
  rw [hcount]
  constructor
  · intro hall
    by_contra hlong
    have hindex : m + (n - 1 - m) = n - 1 := by omega
    have hlast : (below ++ above)[n - 1] ∈ ((below ++ above).take n).drop m := by
      rw [List.mem_iff_getElem]
      refine ⟨n - 1 - m, ?_, ?_⟩
      · rw [List.length_drop, List.length_take]
        omega
      · simp only [List.getElem_drop, List.getElem_take, hindex]
    have hle := hall _ hlast
    rw [List.getElem_append_right (by omega)] at hle
    exact absurd hle (Int.not_le.mpr (habove _ (List.getElem_mem _)))
  · intro hshort x hx
    rw [List.take_append_of_le_length hshort] at hx
    exact hbelow x (List.mem_of_mem_take (List.mem_of_mem_drop hx))

end TcdOran.Lib
