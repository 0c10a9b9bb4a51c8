import Mathlib.Data.Finset.Card

/-!
# Forests given by parent pointers

A partial function `parent` on nodes is a forest when no node is its own proper ancestor
(`Acyclic`). `acyclic_update_iff` says exactly which single change of a parent keeps it one, and
`climb` decides ancestry by following pointers with a set of visited nodes. `listing` walks the
children below a node to a given depth, and `listing_perm` shows that the walk below the roots of a
finite acyclic forest meets every node exactly once.
-/

namespace ParentForest

open Function List Relation

variable {ι : Type*}

/-- The parent of `a` is `b`. -/
def Up (parent : ι → Option ι) (a b : ι) : Prop := parent a = some b

/-- No node is its own proper ancestor. -/
def Acyclic (parent : ι → Option ι) : Prop := ∀ a, ¬ TransGen (Up parent) a a

section
variable {parent : ι → Option ι} {a b c x p : ι}

theorem up_rightUnique (parent : ι → Option ι) : Relator.RightUnique (Up parent) :=
  fun _ _ _ hb hc => Option.some.inj (hb.symm.trans hc)

theorem acyclic_none : Acyclic (fun _ : ι => none) := by
  intro a h
  obtain ⟨_, hup, _⟩ := TransGen.head'_iff.1 h
  cases hup

/-- A forest with fewer edges is a forest. -/
theorem Acyclic.mono {parent' : ι → Option ι} (h : Acyclic parent)
    (hsub : ∀ a b, parent' a = some b → parent a = some b) : Acyclic parent' :=
  fun a hcycle => h a (TransGen.mono hsub a a hcycle)

/-- Two ancestors-or-self of one node lie on one chain. -/
theorem chain_total (hb : ReflTransGen (Up parent) a b) (hc : ReflTransGen (Up parent) a c) :
    ReflTransGen (Up parent) b c ∨ ReflTransGen (Up parent) c b :=
  ReflTransGen.total_of_right_unique (up_rightUnique parent) hb hc

/-- A node on a cycle is an ancestor of everything above it. -/
theorem cycle_returns (hcycle : TransGen (Up parent) a a) (h : ReflTransGen (Up parent) a x) :
    ReflTransGen (Up parent) x a := by
  induction h with
  | refl => exact .refl
  | @tail y z _ hyz ih =>
    rcases ih.cases_head with rfl | ⟨w, hyw, hwa⟩
    · obtain ⟨w, haw, hwa⟩ := TransGen.head'_iff.1 hcycle
      exact up_rightUnique parent haw hyz ▸ hwa
    · exact up_rightUnique parent hyw hyz ▸ hwa

variable [DecidableEq ι]

theorem up_update_of_ne (h : a ≠ x) (p : Option ι) :
    Up (Function.update parent x p) a b ↔ Up parent a b := by
  unfold Up
  rw [update_of_ne h]

/-- A chain that starts at `p` and does not meet `x` is a chain of both forests. -/
theorem chain_of_update (hx : ¬ ReflTransGen (Up parent) p x)
    (h : ReflTransGen (Up (Function.update parent x (some p))) p b) :
    ReflTransGen (Up parent) p b ∧ b ≠ x := by
  induction h with
  | refl => exact ⟨.refl, fun he => hx (he ▸ .refl)⟩
  | @tail b c _ hbc ih =>
    have hpc := ih.1.tail ((up_update_of_ne ih.2 _).1 hbc)
    exact ⟨hpc, fun he => hx (he ▸ hpc)⟩

/-- A chain of the old forest up to `x` is a chain of the new one: it leaves `x` nowhere. -/
theorem chain_to_update (q : Option ι) (h : ReflTransGen (Up parent) a x) :
    ReflTransGen (Up (Function.update parent x q)) a x := by
  induction h using ReflTransGen.head_induction_on with
  | refl => exact .refl
  | @head b c hbc _ ih =>
    by_cases hb : b = x
    · exact hb ▸ .refl
    · exact .head ((up_update_of_ne hb q).2 hbc) ih

/-- A path that does not meet `x` is a path of the old forest. -/
theorem path_of_update {q : Option ι}
    (hx : ¬ ReflTransGen (Up (Function.update parent x q)) a x)
    (h : TransGen (Up (Function.update parent x q)) a b) : TransGen (Up parent) a b := by
  have hne : ∀ c, ReflTransGen (Up (update parent x q)) a c → c ≠ x :=
    fun c hac he => hx (he ▸ hac)
  induction h with
  | single hab => exact .single ((up_update_of_ne (hne a .refl) q).1 hab)
  | tail hab hbc ih => exact ih.tail ((up_update_of_ne (hne _ hab.to_reflTransGen) q).1 hbc)

/-- Moving `x` under `p` keeps a forest a forest exactly when `x` is neither `p` nor an ancestor
of `p`. -/
theorem acyclic_update_iff (hacyclic : Acyclic parent) :
    Acyclic (Function.update parent x (some p)) ↔ ¬ ReflTransGen (Up parent) p x := by
  constructor
  · intro hnew hold
    exact hnew x (.head' (update_self ..) (chain_to_update _ hold))
  · intro hx a hcycle
    by_cases hax : ReflTransGen (Up (update parent x (some p))) a x
    · -- the cycle runs through `x`, so it returns to `x` from `p`
      have hxx : TransGen (Up (update parent x (some p))) x x :=
        .trans_left (.trans_right (cycle_returns hcycle hax) hcycle) hax
      obtain ⟨q, hq, hqx⟩ := TransGen.head'_iff.1 hxx
      rw [Up, update_self, Option.some.injEq] at hq
      exact (chain_of_update hx (hq ▸ hqx)).2 rfl
    · exact hacyclic a (path_of_update hax hcycle)

/-- Making `x` a root keeps a forest a forest. -/
theorem Acyclic.update_none (h : Acyclic parent) : Acyclic (Function.update parent x none) := by
  refine h.mono fun a b hab => ?_
  by_cases ha : a = x
  · rw [ha, update_self] at hab
    cases hab
  · rwa [update_of_ne ha] at hab

end

/-! ## Forests within groups -/

section
variable {γ : Type*} {allowed : ι → Prop} {group group' : ι → Option γ} {parent : ι → Option ι}

/-- Every parent is an allowed node of the same group. -/
def Within (allowed : ι → Prop) (group : ι → Option γ) (parent : ι → Option ι) : Prop :=
  ∀ a p, parent a = some p → allowed p ∧ group p = group a

theorem Within.group_eq {a b : ι} (h : Within allowed group parent)
    (hup : ReflTransGen (Up parent) a b) : group b = group a := by
  induction hup with
  | refl => rfl
  | tail _ hbc ih => exact (h _ _ hbc).2.trans ih

/-- Placing a node of group `g` under a node of its group keeps the parents within their groups. -/
theorem Within.update [DecidableEq ι] {x : ι} {g : γ} {q : Option ι}
    (h : Within allowed group parent) (hcover : ∀ a p, parent a = some p → (group a).isSome)
    (hgroup : group' = Function.update group x (some g))
    (hx : ∀ g', group x = some g' → g' = g)
    (hq : ∀ p, q = some p → allowed p ∧ group p = some g) :
    Within allowed group' (Function.update parent x q) := by
  have hkeep : ∀ {a g'}, group a = some g' → group' a = some g' := by
    intro a g' ha
    rw [hgroup, update_apply]
    split
    · next he => exact congrArg some (hx g' (he ▸ ha)).symm
    · exact ha
  intro a p hap
  rw [update_apply] at hap
  split at hap
  · next he =>
    obtain ⟨hp, hgp⟩ := hq p hap
    exact ⟨hp, by rw [hkeep hgp, hgroup, he, update_self]⟩
  · obtain ⟨hp, hgp⟩ := h a p hap
    obtain ⟨g', ha⟩ := Option.isSome_iff_exists.1 (hcover a p hap)
    exact ⟨hp, by rw [hkeep ha, hkeep (hgp.trans ha)]⟩

end

/-! ## Climbing -/

section
variable {next : ι → Option ι} {target p : ι}

/-- A set of nodes that is closed under `next` holds everything above its members. -/
theorem mem_of_closed {visited : List ι} {a b : ι}
    (hclosed : ∀ v ∈ visited, ∀ w, next v = some w → w ∈ visited) (ha : a ∈ visited)
    (h : ReflTransGen (Up next) a b) : b ∈ visited := by
  induction h with
  | refl => exact ha
  | tail _ hbc ih => exact hclosed _ ih _ hbc

variable [DecidableEq ι]

/-- Climbs from a node until it meets `target`, a node that it has visited, or the end. -/
def climb (next : ι → Option ι) (target : ι) : Nat → List ι → Option ι → Bool
  | 0, _, _ => false
  | _ + 1, _, none => false
  | fuel + 1, visited, some a =>
    if a = target then true
    else if a ∈ visited then false
    else climb next target fuel (a :: visited) (next a)

/-- What the climb meets is above the node it starts at. -/
theorem up_of_climb {fuel : Nat} {visited : List ι}
    (h : climb next target fuel visited (next p) = true) : TransGen (Up next) p target := by
  induction fuel generalizing p visited with
  | zero => cases h
  | succ fuel ih =>
    cases hp : next p with
    | none => cases (hp ▸ h)
    | some a =>
      rw [hp, climb] at h
      split at h
      · next ha => exact .single (hp.trans (congrArg some ha))
      · split at h
        · cases h
        · exact .head hp (ih h)

variable {nodes : List ι} (hnodes : ∀ a b, next a = some b → a ∈ nodes)
include hnodes

/-- The climb meets every node above its start, with fuel for each node that has a successor. What
it has visited is closed under `next` but for the node it stands at, so a node visited twice means
that everything above was visited. -/
theorem climb_of_up {fuel : Nat} {visited : List ι} (hp : p ∈ visited) (hnodup : visited.Nodup)
    (hsub : visited ⊆ nodes) (htarget : target ∉ visited)
    (hclosed : ∀ v ∈ visited, v ≠ p → ∀ w, next v = some w → w ∈ visited)
    (hfuel : nodes.length < fuel + visited.length) (h : TransGen (Up next) p target) :
    climb next target fuel visited (next p) = true := by
  induction fuel generalizing p visited with
  | zero =>
    have hle := (hnodup.subperm hsub).length_le
    omega
  | succ fuel ih =>
    obtain ⟨a, hpa, hat⟩ := TransGen.head'_iff.1 h
    rw [hpa, climb]
    split
    · rfl
    next hne =>
    have hvisited : ∀ v ∈ visited, ∀ w, next v = some w → w = a ∨ w ∈ visited := by
      intro v hv w hw
      by_cases hvp : v = p
      · exact .inl (up_rightUnique next (hvp ▸ hw) hpa)
      · exact .inr (hclosed v hv hvp w hw)
    have hat' : TransGen (Up next) a target :=
      (reflTransGen_iff_eq_or_transGen.1 hat).resolve_left (Ne.symm hne)
    split
    · next hmem =>
      refine absurd (mem_of_closed (fun v hv w hw => ?_) hmem hat) htarget
      exact (hvisited v hv w hw).elim (fun he => he ▸ hmem) id
    · next hmem =>
      obtain ⟨b, hab, _⟩ := TransGen.head'_iff.1 hat'
      refine ih (.head _) (nodup_cons.2 ⟨hmem, hnodup⟩)
        (cons_subset.2 ⟨hnodes a b hab, hsub⟩) ?_ ?_ ?_ hat'
      · exact fun ht => (mem_cons.1 ht).elim (fun he => hne he.symm) htarget
      · intro v hv hva w hw
        rcases mem_cons.1 hv with he | hv
        · exact absurd he hva
        · exact (hvisited v hv w hw).elim (fun he => he ▸ .head _) (.tail _)
      · rw [length_cons]
        omega

/-- **The climb decides ancestry.** From `p`, with one unit of fuel for each node, it meets `target`
exactly when `target` is above `p`. -/
theorem climb_iff (hne : p ≠ target) :
    climb next target nodes.length [p] (next p) = true ↔ TransGen (Up next) p target := by
  refine ⟨up_of_climb, fun h => ?_⟩
  obtain ⟨a, hpa, _⟩ := TransGen.head'_iff.1 h
  refine climb_of_up hnodes (.head _) (nodup_singleton p) ?_ ?_ ?_ (Nat.lt_succ_self _) h
  · exact cons_subset.2 ⟨hnodes p a hpa, nil_subset _⟩
  · simpa using hne.symm
  · intro v hv hvp
    exact absurd (mem_singleton.1 hv) hvp

end

/-! ## The walk below the roots -/

section
variable {children : ι → List ι}

/-- The nodes at and below `a` down to the given depth, parents first. -/
def listing (children : ι → List ι) : Nat → ι → List ι
  | 0, _ => []
  | depth + 1, a => a :: (children a).flatMap (listing children depth)

/-- `roots` and `children` present the nodes of a list as the forest of `parent`: the roots are the
nodes without a parent, the children of a node are the nodes whose parent it is, all listed once. -/
structure Presents (parent : ι → Option ι) (nodes roots : List ι) (children : ι → List ι) :
    Prop where
  nodup_roots : roots.Nodup
  nodup_children : ∀ a, (children a).Nodup
  mem_roots : ∀ a, a ∈ roots ↔ a ∈ nodes ∧ parent a = none
  mem_children : ∀ a b, b ∈ children a ↔ b ∈ nodes ∧ parent b = some a
  parent_mem : ∀ a ∈ nodes, ∀ b, parent a = some b → b ∈ nodes

variable {parent : ι → Option ι} {nodes roots : List ι} {a b : ι} {depth : Nat}

/-- Items that are listed under the parent that is shown for them, or as roots, present a forest. -/
theorem presents_filter {α : Type*} [DecidableEq ι] {items : List α} {key : α → ι}
    (shown : α → Option ι) (hnodup : (items.map key).Nodup)
    (hshown : ∀ item ∈ items, parent (key item) = shown item)
    (hlisted : ∀ item ∈ items, ∀ p, shown item = some p → p ∈ items.map key) :
    Presents parent (items.map key) ((items.filter fun item => shown item = none).map key)
      fun p => (items.filter fun item => shown item = some p).map key := by
  have hsub : ∀ test : α → Bool, ((items.filter test).map key).Nodup :=
    fun test => hnodup.sublist (filter_sublist.map key)
  have hmem : ∀ (id : ι) (target : Option ι),
      id ∈ (items.filter fun item => shown item = target).map key ↔
        id ∈ items.map key ∧ parent id = target := by
    intro id target
    constructor
    · intro h
      obtain ⟨item, hitem, rfl⟩ := mem_map.1 h
      obtain ⟨hitem, he⟩ := mem_filter.1 hitem
      exact ⟨mem_map.2 ⟨item, hitem, rfl⟩, (hshown item hitem).trans (of_decide_eq_true he)⟩
    · rintro ⟨h, he⟩
      obtain ⟨item, hitem, rfl⟩ := mem_map.1 h
      refine mem_map.2 ⟨item, mem_filter.2 ⟨hitem, ?_⟩, rfl⟩
      exact decide_eq_true ((hshown item hitem).symm.trans he)
  refine ⟨hsub _, fun _ => hsub _, fun id => hmem id none, fun id child => hmem child (some id), ?_⟩
  intro id hid p hp
  obtain ⟨item, hitem, rfl⟩ := mem_map.1 hid
  exact hlisted item hitem p ((hshown item hitem).symm.trans hp)

section
variable (h : Presents parent nodes roots children)
include h

/-- What the walk meets below `a` has `a` above it. -/
theorem Presents.up_of_mem_listing (hb : b ∈ listing children depth a) : ReflTransGen
    (Up parent) b a := by
  induction depth generalizing a with
  | zero => cases hb
  | succ depth ih =>
    rcases mem_cons.1 hb with rfl | hb
    · exact .refl
    · obtain ⟨c, hc, hb⟩ := mem_flatMap.1 hb
      exact (ih hb).tail ((h.mem_children a c).1 hc).2

/-- The walk below a node meets nodes only. -/
theorem Presents.mem_nodes (ha : a ∈ nodes) (hb : b ∈ listing children depth a) : b ∈ nodes := by
  induction depth generalizing a with
  | zero => cases hb
  | succ depth ih =>
    rcases mem_cons.1 hb with rfl | hb
    · exact ha
    · obtain ⟨c, hc, hb⟩ := mem_flatMap.1 hb
      exact ih ((h.mem_children a c).1 hc).1 hb

/-- Two walks that meet a common node start on one chain. -/
theorem Presents.disjoint_siblings (hne : a ≠ b)
    (hsibling : ¬ TransGen (Up parent) a b ∧ ¬ TransGen (Up parent) b a) :
    List.Disjoint (listing children depth a) (listing children depth b) := by
  intro x hxa hxb
  rcases chain_total (h.up_of_mem_listing hxa) (h.up_of_mem_listing hxb) with hab | hba
  · exact hsibling.1 ((reflTransGen_iff_eq_or_transGen.1 hab).resolve_left (Ne.symm hne))
  · exact hsibling.2 ((reflTransGen_iff_eq_or_transGen.1 hba).resolve_left hne)

/-- The walk below one node meets no node twice. -/
theorem Presents.nodup_listing (hacyclic : Acyclic parent) : (listing children depth a).Nodup := by
  induction depth generalizing a with
  | zero => exact .nil
  | succ depth ih =>
    refine nodup_cons.2 ⟨fun ha => ?_, nodup_flatMap.2 ⟨fun c _ => ih, ?_⟩⟩
    · obtain ⟨c, hc, ha⟩ := mem_flatMap.1 ha
      exact hacyclic a (.tail' (h.up_of_mem_listing ha) ((h.mem_children a c).1 hc).2)
    · -- a path between two children of `a` continues to `a`, which closes a cycle
      have hsibling : ∀ c ∈ children a, ∀ d ∈ children a, ¬ TransGen (Up parent) c d := by
        intro c hc d hd hcd
        obtain ⟨e, hce, hed⟩ := TransGen.head'_iff.1 hcd
        have hea : e = a := up_rightUnique parent hce ((h.mem_children a c).1 hc).2
        exact hacyclic a (.tail' (hea ▸ hed) ((h.mem_children a d).1 hd).2)
      exact (h.nodup_children a).imp_of_mem fun hc hd hne =>
        h.disjoint_siblings hne ⟨hsibling _ hc _ hd, hsibling _ hd _ hc⟩

end

/-- Walking deeper meets no less. -/
theorem listing_subset_succ (children : ι → List ι) (depth : Nat) (a : ι) :
    listing children depth a ⊆ listing children (depth + 1) a := by
  induction depth generalizing a with
  | zero => exact nil_subset _
  | succ depth ih =>
    intro b hb
    rcases mem_cons.1 hb with rfl | hb
    · exact .head _
    · obtain ⟨c, hc, hb⟩ := mem_flatMap.1 hb
      exact .tail _ (mem_flatMap.2 ⟨c, hc, ih c hb⟩)

theorem listing_subset {depth depth' : Nat} (h : depth ≤ depth') (a : ι) :
    listing children depth a ⊆ listing children depth' a := by
  induction h with
  | refl => exact List.Subset.refl _
  | step _ ih => exact fun b hb => listing_subset_succ children _ a (ih hb)

/-- A child of a node that the walk meets is met one level deeper. -/
theorem child_mem_listing (hb : b ∈ listing children depth a) {c : ι} (hc : c ∈ children b) :
    c ∈ listing children (depth + 1) a := by
  induction depth generalizing a with
  | zero => cases hb
  | succ depth ih =>
    rcases mem_cons.1 hb with rfl | hb
    · exact .tail _ (mem_flatMap.2 ⟨c, hc, .head _⟩)
    · obtain ⟨d, hd, hb⟩ := mem_flatMap.1 hb
      exact .tail _ (mem_flatMap.2 ⟨d, hd, ih hb⟩)

variable (h : Presents parent nodes roots children) (hacyclic : Acyclic parent)
include h hacyclic

/-- Every node of a finite forest is met below some root, at some depth. The induction is on the
number of proper ancestors of the node, which its parent has fewer of. -/
theorem Presents.exists_mem_listing (ha : a ∈ nodes) :
    ∃ depth, ∃ r ∈ roots, a ∈ listing children depth r := by
  classical
  induction hn : (nodes.toFinset.filter (TransGen (Up parent) a)).card using Nat.strong_induction_on
    generalizing a with
  | _ n ih =>
  cases hp : parent a with
  | none => exact ⟨1, a, (h.mem_roots a).2 ⟨ha, hp⟩, .head _⟩
  | some p =>
    have hmem := h.parent_mem a ha p hp
    have hlt : (nodes.toFinset.filter (TransGen (Up parent) p)).card < n := by
      refine hn ▸ Finset.card_lt_card (Finset.ssubset_iff_of_subset ?_ |>.2 ⟨p, ?_, ?_⟩)
      · intro b hb
        simp only [Finset.mem_filter] at hb ⊢
        exact ⟨hb.1, .head hp hb.2⟩
      · simpa using ⟨hmem, TransGen.single hp⟩
      · simpa using fun _ => hacyclic p
    obtain ⟨depth, r, hr, hpr⟩ := ih _ hlt hmem rfl
    exact ⟨depth + 1, r, hr, child_mem_listing hpr ((h.mem_children p a).2 ⟨ha, hp⟩)⟩

/-- **The walk below the roots of an acyclic forest meets every node exactly once.** From some
depth on the listing is a permutation of the nodes. -/
theorem Presents.listing_perm (hnodes : nodes.Nodup) :
    ∃ depth, ∀ depth' ≥ depth, (roots.flatMap (listing children depth')).Perm nodes := by
  obtain ⟨depth, hdepth⟩ : ∃ depth, ∀ a ∈ nodes, ∃ r ∈ roots, a ∈ listing children depth r := by
    have hall : ∀ l ⊆ nodes, ∃ depth, ∀ a ∈ l, ∃ r ∈ roots, a ∈ listing children depth r := by
      intro l
      induction l with
      | nil => exact fun _ => ⟨0, nofun⟩
      | cons a l ih =>
        intro hl
        obtain ⟨d, hd⟩ := ih fun b hb => hl (.tail _ hb)
        obtain ⟨e, r, hr, har⟩ := h.exists_mem_listing hacyclic (hl (.head _))
        refine ⟨max d e, fun b hb => ?_⟩
        rcases mem_cons.1 hb with rfl | hb
        · exact ⟨r, hr, listing_subset (le_max_right _ _) r har⟩
        · obtain ⟨r, hr, hbr⟩ := hd b hb
          exact ⟨r, hr, listing_subset (le_max_left _ _) r hbr⟩
    exact hall nodes (List.Subset.refl _)
  refine ⟨depth, fun depth' hle => ?_⟩
  have hnodup : (roots.flatMap (listing children depth')).Nodup := by
    refine nodup_flatMap.2 ⟨fun r _ => h.nodup_listing hacyclic, ?_⟩
    have hroot : ∀ r ∈ roots, ∀ b, ¬ TransGen (Up parent) r b := by
      intro r hr b hrb
      obtain ⟨c, hup, _⟩ := TransGen.head'_iff.1 hrb
      cases ((h.mem_roots r).1 hr).2.symm.trans hup
    exact h.nodup_roots.imp_of_mem fun hr hs hne =>
      h.disjoint_siblings hne ⟨hroot _ hr _, hroot _ hs _⟩
  refine (perm_ext_iff_of_nodup hnodup hnodes).2 fun a => ⟨fun ha => ?_, fun ha => ?_⟩
  · obtain ⟨r, hr, har⟩ := mem_flatMap.1 ha
    exact h.mem_nodes ((h.mem_roots r).1 hr).1 har
  · obtain ⟨r, hr, har⟩ := hdepth a ha
    exact mem_flatMap.2 ⟨r, hr, listing_subset hle r har⟩

end

end ParentForest
