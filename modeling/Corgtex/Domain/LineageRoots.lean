import Corgtex.Domain.PermissionEpochs

/-!
# Lineage roots

`source-lineage.ts`: an input of an artifact is read more than once, and each
reading gives a root with the revision that was read and the receipt it was read under.
`mergeLineageInputRoot` adds a reading to those before. Since the receipts are merged in steps
(`merge_concat`), what a collection ends with is one merge of all its receipts
(`collectLineageRoots_ok`), in whatever order the roots came.
-/

namespace Corgtex.Domain

/-- `LineageRoot` (line 105). -/
structure LineageRoot where
  kind : JsString
  id : JsString
  fingerprint : JsString
  permissionEpochs : Option PermissionEpochProof

/-- `mergeLineageInputRoot` (line 106). -/
def mergeLineageInputRoot (previous : Option LineageRoot) (root : LineageRoot) :
    Except AppError LineageRoot := do
  invariant (previous.all fun previous => previous.kind = root.kind && previous.id = root.id &&
    previous.fingerprint = root.fingerprint) 409 "SOURCE_CHANGED"
    "Input revisions changed during collection."
  let permissionEpochs ← mergePermissionEpochProofs
    [previous.bind LineageRoot.permissionEpochs, root.permissionEpochs]
  match permissionEpochs with
  | some proof => .ok { root with permissionEpochs := some proof }
  | none => .ok root

/-- Roots of one input, added one after another to what there is (`observeArtifactRead`,
line 54). -/
def collectLineageRoots (previous : Option LineageRoot) (roots : List LineageRoot) :
    Except AppError (Option LineageRoot) :=
  roots.foldlM (fun prior root => do
    let next ← mergeLineageInputRoot prior root
    .ok (some next)) previous

/-! ## One root -/

/-- The roots are readings of one revision. -/
def LineageRoot.SameRevision (root root' : LineageRoot) : Prop :=
  root.kind = root'.kind ∧ root.id = root'.id ∧ root.fingerprint = root'.fingerprint

theorem LineageRoot.SameRevision.trans {a b c : LineageRoot} (hab : a.SameRevision b)
    (hbc : b.SameRevision c) : a.SameRevision c :=
  ⟨hab.1.trans hbc.1, hab.2.1.trans hbc.2.1, hab.2.2.trans hbc.2.2⟩

theorem LineageRoot.SameRevision.symm {a b : LineageRoot} (h : a.SameRevision b) :
    b.SameRevision a :=
  ⟨h.1.symm, h.2.1.symm, h.2.2.symm⟩

/-- What adding a root to those before gives. -/
theorem mergeLineageInputRoot_ok {previous : Option LineageRoot} {root next : LineageRoot} :
    mergeLineageInputRoot previous root = .ok next ↔
      (∀ prior ∈ previous, prior.SameRevision next) ∧ root.SameRevision next ∧
        mergePermissionEpochProofs
          [previous.bind LineageRoot.permissionEpochs, root.permissionEpochs] =
            .ok next.permissionEpochs := by
  have hsame : (previous.all fun previous => previous.kind = root.kind &&
      previous.id = root.id && previous.fingerprint = root.fingerprint) = true ↔
        ∀ prior ∈ previous, prior.SameRevision root := by
    cases previous with
    | none => simp
    | some prior => simp [LineageRoot.SameRevision, and_assoc]
  rw [mergeLineageInputRoot, invariant_bind_ok, hsame]
  constructor
  · rintro ⟨hprior, h⟩
    obtain ⟨merged, hmerged, h⟩ := bind_ok.1 h
    cases merged with
    | none =>
      cases h
      have hnone := forall_none_of_merge hmerged root.permissionEpochs (by simp)
      exact ⟨hprior, ⟨rfl, rfl, rfl⟩, hnone ▸ hmerged⟩
    | some proof =>
      cases h
      exact ⟨hprior, ⟨rfl, rfl, rfl⟩, hmerged⟩
  · rintro ⟨hprior, hroot, hmerged⟩
    refine ⟨fun prior hmem => (hprior prior hmem).trans hroot.symm, bind_ok.2 ⟨_, hmerged, ?_⟩⟩
    obtain ⟨kind, id, fingerprint, permissionEpochs⟩ := root
    obtain ⟨kind', id', fingerprint', permissionEpochs'⟩ := next
    obtain ⟨hkind, hid, hfingerprint⟩ := hroot
    simp only at hkind hid hfingerprint hmerged
    cases permissionEpochs' with
    | none =>
      have hnone := forall_none_of_merge hmerged permissionEpochs (by simp)
      rw [hkind, hid, hfingerprint, hnone]
    | some proof => rw [hkind, hid, hfingerprint]

/-! ## A collection -/

/-- The receipts of what there is and of the roots that are added. -/
def receiptsOf (previous : Option LineageRoot) (roots : List LineageRoot) :
    List (Option PermissionEpochProof) :=
  (previous.toList ++ roots).map LineageRoot.permissionEpochs

section
variable {previous : Option LineageRoot} {roots : List LineageRoot} {root : LineageRoot}
  {result : Option LineageRoot}

/-- The last root is added to what the others gave. -/
theorem collectLineageRoots_concat :
    collectLineageRoots previous (roots ++ [root]) = .ok result ↔
      ∃ prior next, collectLineageRoots previous roots = .ok prior ∧ result = some next ∧
        mergeLineageInputRoot prior root = .ok next := by
  rw [collectLineageRoots, List.foldlM_append, bind_ok]
  refine exists_congr fun prior => ?_
  rw [List.foldlM_cons, exists_and_left]
  refine and_congr_right fun _ => ?_
  constructor
  · intro h
    obtain ⟨value, hvalue, h⟩ := bind_ok.1 h
    obtain ⟨next, hnext, hsome⟩ := bind_ok.1 hvalue
    cases hsome
    cases h
    exact ⟨next, rfl, hnext⟩
  · rintro ⟨next, rfl, hnext⟩
    exact bind_ok.2 ⟨some next, bind_ok.2 ⟨next, hnext, rfl⟩, rfl⟩

/-- An absent receipt before the last adds nothing. -/
theorem merge_previous {value result : Option PermissionEpochProof} :
    mergePermissionEpochProofs [previous.bind LineageRoot.permissionEpochs, value] = .ok result ↔
      mergePermissionEpochProofs (receiptsOf previous [] ++ [value]) = .ok result := by
  cases previous with
  | none =>
    refine mergePermissionEpochProofs_congr ?_ fun entry => ?_
    · simp [receiptsOf]
    · simp [entriesOf, receiptsOf]
  | some prior => rfl

/-- **A collection is one merge of its receipts**, and all its roots are of one revision. -/
theorem collectLineageRoots_ok (hne : roots ≠ []) :
    collectLineageRoots previous roots = .ok result ↔
      ∃ next, result = some next ∧
        (∀ root ∈ previous.toList ++ roots, root.SameRevision next) ∧
        mergePermissionEpochProofs (receiptsOf previous roots) = .ok next.permissionEpochs := by
  induction roots using List.reverseRecOn generalizing result with
  | nil => exact absurd rfl hne
  | append_singleton roots root ih =>
    have hreceipts : receiptsOf previous (roots ++ [root]) =
        receiptsOf previous roots ++ [root.permissionEpochs] := by
      simp [receiptsOf]
    rw [collectLineageRoots_concat]
    by_cases hroots : roots = []
    · subst hroots
      constructor
      · rintro ⟨prior, next, hprior, rfl, hnext⟩
        cases hprior
        obtain ⟨hbefore, hroot, hmerged⟩ := mergeLineageInputRoot_ok.1 hnext
        refine ⟨next, rfl, fun other hother => ?_, hreceipts ▸ merge_previous.1 hmerged⟩
        rcases List.mem_append.1 hother with hother | hother
        · exact hbefore other (Option.mem_toList.1 hother)
        · exact List.mem_singleton.1 hother ▸ hroot
      · rintro ⟨next, rfl, hsame, hmerged⟩
        rw [hreceipts, ← merge_previous] at hmerged
        refine ⟨previous, next, rfl, rfl,
          mergeLineageInputRoot_ok.2 ⟨fun prior hprior => ?_, ?_, hmerged⟩⟩
        · exact hsame prior (List.mem_append_left _ (Option.mem_toList.2 hprior))
        · exact hsame root (by simp)
    · constructor
      · rintro ⟨prior, next, hprior, rfl, hnext⟩
        obtain ⟨mid, rfl, hsame, hmid⟩ := (ih hroots).1 hprior
        obtain ⟨hbefore, hroot, hmerged⟩ := mergeLineageInputRoot_ok.1 hnext
        refine ⟨next, rfl, fun other hother => ?_, ?_⟩
        · rw [← List.append_assoc] at hother
          rcases List.mem_append.1 hother with hother | hother
          · exact (hsame other hother).trans (hbefore mid rfl)
          · exact List.mem_singleton.1 hother ▸ hroot
        · rw [hreceipts]
          exact merge_concat.1 ⟨_, hmid, hmerged⟩
      · rintro ⟨next, rfl, hsame, hmerged⟩
        rw [hreceipts] at hmerged
        obtain ⟨merged, hbefore, hlast⟩ := merge_concat.2 hmerged
        refine ⟨some { next with permissionEpochs := merged }, next,
          (ih hroots).2 ⟨_, rfl, ?_, hbefore⟩, rfl,
          mergeLineageInputRoot_ok.2 ⟨fun prior hprior => ?_, ?_, hlast⟩⟩
        · intro other hother
          exact hsame other (by rw [← List.append_assoc]; exact List.mem_append_left _ hother)
        · cases hprior
          exact ⟨rfl, rfl, rfl⟩
        · exact hsame root (by simp)

/-- The order in which the roots are added does not matter. -/
theorem collectLineageRoots_perm {roots' : List LineageRoot} (h : roots.Perm roots') :
    collectLineageRoots previous roots = .ok result ↔
      collectLineageRoots previous roots' = .ok result := by
  by_cases hne : roots = []
  · subst hne
    rw [List.nil_perm.1 h]
  · have hne' : roots' ≠ [] := fun hnil => hne (List.perm_nil.1 (hnil ▸ h))
    have happend : (previous.toList ++ roots).Perm (previous.toList ++ roots') := h.append_left _
    rw [collectLineageRoots_ok hne, collectLineageRoots_ok hne']
    simp only [happend.mem_iff, receiptsOf, merge_perm (happend.map LineageRoot.permissionEpochs)]

end

/-! ## The laws -/

theorem toOption_eq_iff {ε α : Type} {a b : Except ε α} :
    a.toOption = b.toOption ↔ ∀ result, a = .ok result ↔ b = .ok result := by
  cases a <;> cases b <;> simp [Except.toOption, eq_comm]

/-- **Merging receipts is a partial least upper bound.** It is commutative, associative and
idempotent, it is defined exactly when no identity has two epochs and the identities of both are at
most 10000, and its result is a receipt with the entries of both and no others. A collection of
roots does not depend on their order. -/
theorem mergePermissionEpochProofs_partial_lub :
    (∀ p q : PermissionReceipt, mergePermissionEpochProofs [some p.1, some q.1] =
      mergePermissionEpochProofs [some q.1, some p.1]) ∧
    (∀ p q r : PermissionReceipt,
      (mergePermissionEpochProofs [some p.1, some q.1] >>= fun pq =>
        mergePermissionEpochProofs [pq, some r.1]).toOption =
      (mergePermissionEpochProofs [some q.1, some r.1] >>= fun qr =>
        mergePermissionEpochProofs [some p.1, qr]).toOption) ∧
    (∀ p : PermissionReceipt, mergePermissionEpochProofs [some p.1, some p.1] = .ok (some p.1)) ∧
    (∀ p q : PermissionReceipt,
      (∃ merged, mergePermissionEpochProofs [some p.1, some q.1] = .ok merged) ↔
        (∀ a ∈ p.1.entries, ∀ b ∈ q.1.entries,
          a.toPermissionEpochIdentity = b.toPermissionEpochIdentity → a.epoch = b.epoch) ∧
        (p.1.identities ∪ q.1.identities).card ≤ MAX_EPOCH_IDENTITIES) ∧
    (∀ (p q : PermissionReceipt) (merged : Option PermissionEpochProof),
      mergePermissionEpochProofs [some p.1, some q.1] = .ok merged →
        ∃ proof, merged = some proof ∧ parsePermissionEpochProof proof.toJson = some proof ∧
          ∀ entry, entry ∈ proof.entries ↔ entry ∈ p.1.entries ∨ entry ∈ q.1.entries) ∧
    (∀ p q r : PermissionReceipt,
      mergePermissionEpochProofs [some p.1, some q.1] = .ok (some r.1) ↔ IsLUB {p, q} r) ∧
    ∀ (previous : Option LineageRoot) (roots roots' : List LineageRoot), roots.Perm roots' →
      (collectLineageRoots previous roots).toOption =
        (collectLineageRoots previous roots').toOption := by
  refine ⟨fun p q => ?_, fun p q r => ?_, fun p => ?_,
    fun p q => PermissionReceipt.merge_defined_iff, fun p q merged h => ?_,
    fun p q r => PermissionReceipt.merge_iff_isLUB,
    fun previous roots roots' h => toOption_eq_iff.2 fun result => collectLineageRoots_perm h⟩
  · refine mergePermissionEpochProofs_eq_of_mem (PermissionReceipt.accepted_pair p q)
      (PermissionReceipt.accepted_pair q p) fun entry => ?_
    rw [PermissionReceipt.mem_entriesOf_pair, PermissionReceipt.mem_entriesOf_pair, or_comm]
  · refine toOption_eq_iff.2 fun result => ?_
    rw [bind_ok, bind_ok, merge_concat, merge_cons]
    rfl
  · exact PermissionReceipt.merge_iff_isLUB.2 (by simp)
  · obtain ⟨r, rfl, hmem⟩ := PermissionReceipt.merge_entries h
    exact ⟨r.1, rfl, r.2, hmem⟩

end Corgtex.Domain
