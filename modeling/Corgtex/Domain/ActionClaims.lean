import Corgtex.Domain.DuplicateForest

/-!
# Claims of sources

All requests with one source answer with one action: the one that the first of them has created or
was matched to, or the one that this action has since been marked with (`createAction_idempotent`).
The claim of the source is what carries this from request to request: it names that action or the
one it is marked with, also after a merge has moved it, and its hash is that of the content of the
first request (`Claimed`).
-/

namespace Corgtex.Domain

open Option hiding or_assoc

open List

/-! ## Contents -/

def isHashedType (type : JsString) : Bool :=
  type = .lit "MEETING_INSIGHT" || requestSourceTypes.contains type

/-- A content that requests with the key can have. -/
structure IsContent (key : ActionSourceKey) (content : Option JsString) : Prop where
  isSome_eq : content.isSome = isHashedType key.2.1
  text : ∀ text, content = some text → ∃ value : Json JsString, text = Json.stringify id value

section
variable {sha256 : Sha256} {params : SourcedActionParams} {claimed : ActionCreationSource}
  {key : ActionSourceKey} {content content' : Option JsString}

theorem isContent_hashedContent (params : SourcedActionParams) :
    IsContent params.key params.hashedContent := by
  unfold SourcedActionParams.hashedContent
  dsimp only
  by_cases hmeeting : params.source.trim.type = .lit "MEETING_INSIGHT"
  · rw [if_pos hmeeting]
    refine ⟨?_, fun text h => ⟨_, (some.inj h).symm⟩⟩
    simp [isHashedType, SourcedActionParams.key, hmeeting]
  rw [if_neg hmeeting]
  by_cases hrequest : requestSourceTypes.contains params.source.trim.type = true
  · rw [if_pos hrequest]
    refine ⟨?_, fun text h => ⟨_, (some.inj h).symm⟩⟩
    rw [isHashedType, SourcedActionParams.key, hrequest, Bool.or_true, isSome_some]
  · rw [if_neg hrequest]
    refine ⟨?_, nofun⟩
    rw [isHashedType, SourcedActionParams.key, Bool.eq_false_iff.2 hrequest,
      decide_eq_false hmeeting]
    rfl

theorem IsContent.eq_of_hash (h : IsContent key content) (h' : IsContent key content')
    (hhash : content.map sha256.hex = content'.map sha256.hex) : content = content' := by
  cases content with
  | none => exact (map_eq_none_iff.1 hhash.symm).symm
  | some text =>
    cases content' with
    | none => cases hhash
    | some text' =>
      obtain ⟨value, rfl⟩ := h.text text rfl
      obtain ⟨value', rfl⟩ := h'.text text' rfl
      rw [sha256.injective value value' (some.inj hhash)]

/-- The hash of a content is not taken for a missing one. -/
theorem hex_orNull : (content.map sha256.hex).bind JsString.orNull = content.map sha256.hex := by
  cases content with
  | none => rfl
  | some text => exact JsString.orNull_eq_some.2 ⟨rfl, sha256.ne_nil text⟩

/-- **The check of a claim** is passed by the requests with the content of the claim. -/
theorem checkPayload_iff (hcontent : IsContent params.key content)
    (hhash : claimed.payloadHash = content.map sha256.hex) :
    checkPayload sha256 params claimed = .ok () ↔ content = params.hashedContent := by
  have hparams := isContent_hashedContent params
  have hpass : checkPayload sha256 params claimed = .ok () ↔
      (params.hashedContent = none ∨ content = none) ∨
        content.map sha256.hex = params.hashedContent.map sha256.hex := by
    simp only [checkPayload, hhash, hex_orNull, invariant]
    split
    · next h => simpa [or_assoc] using h
    · next h => simpa [or_assoc] using h
  rw [hpass]
  constructor
  · rintro ((hnone | hnone) | hsame)
    · rw [hnone, ← Option.not_isSome_iff_eq_none, hcontent.isSome_eq, ← hparams.isSome_eq, hnone]
      simp
    · rw [hnone, eq_comm, ← Option.not_isSome_iff_eq_none, hparams.isSome_eq, ← hcontent.isSome_eq,
        hnone]
      simp
    · exact hcontent.eq_of_hash hparams hsame
  · rintro rfl
    exact .inr rfl

theorem checkPayload_error {e : AppError} (h : checkPayload sha256 params claimed = .error e) :
    e = idempotencyConflict := by
  unfold checkPayload invariant at h
  dsimp only at h
  split at h
  · cases h
  · exact (Except.error.inj h).symm

end

/-! ## Claims -/

/-- The action itself, or the one that it is marked with. -/
def SameAction (store : ActionStore) (first id : JsString) : Prop :=
  id = first ∨ ∃ workspaceId, markOf store first = some (some id, workspaceId)

/-- The answer claims the source: it has created an action or was matched to one. -/
def ActionAnswer.claims (key : ActionSourceKey) (answer : ActionAnswer) : Bool :=
  answer.key = key && match answer.result with
    | .ok (.created _) | .ok (.matched _) => true
    | _ => false

/-- The source is claimed by one answer: for this content, and for an action that is this one or is
marked with it. -/
def Claimed (state : ActionState) (key : ActionSourceKey) (content : Option JsString)
    (id : JsString) : Prop :=
  ∃ answer action, state.answers.filter (ActionAnswer.claims key) = [answer] ∧
    answer.result = .ok action ∧ answer.content = content ∧ SameAction state.store action.id id

/-- What a creation knows of its claim. -/
def Creation.Knows (creation : Creation) (state : ActionState) : Prop :=
  match creation.phase with
  | .waiting | .locked => True
  | .unclaimed => state.sources.find? creation.params.key = none
  | .claimed claimed =>
    Claimed state creation.params.key creation.params.hashedContent claimed.actionId
  | .marked _ canonicalId =>
    Claimed state creation.params.key creation.params.hashedContent canonicalId

/-- The invariant of the claims. -/
structure ClaimsSound (sha256 : Sha256) (state : ActionState) : Prop where
  marks : MarksSound state
  contents : ∀ answer ∈ state.answers, IsContent answer.key answer.content
  claimed : ∀ key source, state.sources.find? key = some source → ∃ content,
    Claimed state key content source.actionId ∧ source.payloadHash = content.map sha256.hex
  answered : ∀ answer ∈ state.answers, ∀ action, answer.result = .ok action →
    Claimed state answer.key answer.content action.id ∧
      ∃ source, state.sources.find? answer.key = some source
  exclusive : ∀ i j creation other, state.creations i = some creation →
    state.creations j = some other → creation.isLocked → other.isLocked →
    creation.params.workspaceId = other.params.workspaceId → i = j
  knows : ∀ i creation, state.creations i = some creation → creation.Knows state
  conflicts : state.answers.Pairwise fun first later => first.key = later.key →
    (∃ action, first.result = .ok action) → first.content ≠ later.content →
    later.result = .error idempotencyConflict

/-! ## Steps -/

section
variable {sha256 : Sha256} {state state' : ActionState} {key : ActionSourceKey}
  {content content' : Option JsString} {id id' uuid : JsString} {creation : Creation} {i : Nat}

def MarksStay (store store' : ActionStore) : Prop :=
  ∀ id canonicalId workspaceId, markOf store id = some (some canonicalId, workspaceId) →
    markOf store' id = some (some canonicalId, workspaceId)

variable {store store' : ActionStore}

theorem KeepsMarks.stay (h : KeepsMarks uuid store store') :
    MarksStay store store' := fun _ _ _ hmark => h.kept hmark

variable {params : ResolveActionDuplicateParams}

theorem Resolved.stay (h : Resolved params store store') (hforest : DuplicateForest store)
    (hempty : markOf store [] = none) : MarksStay store store' := by
  intro id canonicalId workspaceId hmark
  rw [h.find, if_neg, hmark]
  rintro rfl
  obtain ⟨mark, hduplicate, hunmarked⟩ := h.duplicate
  rw [hmark] at hduplicate
  obtain rfl := (Prod.mk.inj (some.inj hduplicate)).1
  have hroot := hforest _ _ _ hmark
  rw [JsString.orNull_eq_none.1 hunmarked, hempty] at hroot
  cases hroot

theorem SameAction.stay {first : JsString} (h : SameAction store first id)
    (hstay : MarksStay store store') : SameAction store' first id := by
  rcases h with rfl | ⟨workspaceId, hmark⟩
  · exact .inl rfl
  · exact .inr ⟨workspaceId, hstay _ _ _ hmark⟩

theorem Claimed.stay (h : Claimed state key content id)
    (hfilter : state'.answers.filter (ActionAnswer.claims key) =
      state.answers.filter (ActionAnswer.claims key))
    (hstay : MarksStay state.store state'.store) : Claimed state' key content id := by
  obtain ⟨answer, action, hanswer, hresult, hcontent, hsame⟩ := h
  exact ⟨answer, action, hfilter.trans hanswer, hresult, hcontent, hsame.stay hstay⟩

/-- The claims of one source agree. -/
theorem Claimed.content_eq (h : Claimed state key content id)
    (h' : Claimed state key content' id') : content = content' := by
  obtain ⟨answer, _, hanswer, _, rfl, _⟩ := h
  obtain ⟨answer', _, hanswer', _, rfl, _⟩ := h'
  rw [(cons.inj (hanswer.symm.trans hanswer')).1]

theorem Creation.Knows.stay (h : creation.Knows state)
    (hanswers : state'.answers = state.answers) (hsources : state'.sources = state.sources)
    (hstay : MarksStay state.store state'.store) : creation.Knows state' := by
  unfold Creation.Knows at h ⊢
  split at h
  · trivial
  · trivial
  · exact hsources ▸ h
  · exact h.stay (hanswers ▸ rfl) hstay
  · exact h.stay (hanswers ▸ rfl) hstay

/-- A step that writes rows of actions, or is of a resolution before it commits. -/
theorem ClaimsSound.of_marks (h : ClaimsSound sha256 state) (hmarks : MarksSound state')
    (hanswers : state'.answers = state.answers) (hsources : state'.sources = state.sources)
    (hcreations : state'.creations = state.creations)
    (hstay : MarksStay state.store state'.store) : ClaimsSound sha256 state' where
  marks := hmarks
  contents := hanswers ▸ h.contents
  claimed key source hsource := by
    rw [hsources] at hsource
    obtain ⟨content, hclaimed, hhash⟩ := h.claimed key source hsource
    exact ⟨content, hclaimed.stay (hanswers ▸ rfl) hstay, hhash⟩
  answered answer hmem action hresult := by
    rw [hanswers] at hmem
    obtain ⟨hclaimed, hsource⟩ := h.answered answer hmem action hresult
    exact ⟨hclaimed.stay (hanswers ▸ rfl) hstay, hsources ▸ hsource⟩
  exclusive := hcreations ▸ h.exclusive
  knows i creation hcreation :=
    (h.knows i creation (hcreations ▸ hcreation)).stay hanswers hsources hstay
  conflicts := hanswers ▸ h.conflicts

variable {next : Option Creation}

theorem setCreation_cases {j : Nat} {other : Creation}
    (h : (state.setCreation i next).creations j = some other) :
    j = i ∧ next = some other ∨ j ≠ i ∧ state.creations j = some other := by
  simp only [ActionState.setCreation, Function.update_apply] at h
  split at h
  · next hji => exact .inl ⟨hji, h⟩
  · next hji => exact .inr ⟨hji, h⟩

section
variable (h : ClaimsSound sha256 state)
include h

theorem exclusive_setCreation (hnext : ∀ creation, next = some creation → creation.isLocked →
      ∀ j other, state.creations j = some other → other.isLocked →
        other.params.workspaceId = creation.params.workspaceId → j = i) :
    ∀ j k creation other, (state.setCreation i next).creations j = some creation →
      (state.setCreation i next).creations k = some other → creation.isLocked → other.isLocked →
      creation.params.workspaceId = other.params.workspaceId → j = k := by
  intro j k creation other hj hk hlocked hlocked' hworkspace
  rcases setCreation_cases hj with ⟨hji, hnew⟩ | ⟨_, hj⟩
  · rcases setCreation_cases hk with ⟨hki, _⟩ | ⟨_, hk⟩
    · rw [hji, hki]
    · exact hji.trans (hnext creation hnew hlocked k other hk hlocked' hworkspace.symm).symm
  · rcases setCreation_cases hk with ⟨hki, hnew⟩ | ⟨_, hk⟩
    · exact (hnext other hnew hlocked' j creation hj hlocked hworkspace).trans hki.symm
    · exact h.exclusive j k creation other hj hk hlocked hlocked' hworkspace

/-- A step of a creation that is not its answer. -/
theorem ClaimsSound.setCreation (hnext : ∀ creation, next = some creation → creation.isLocked →
      ∀ j other, state.creations j = some other → other.isLocked →
        other.params.workspaceId = creation.params.workspaceId → j = i)
    (hknows : ∀ creation, next = some creation → creation.Knows state) :
    ClaimsSound sha256 (state.setCreation i next) where
  marks := h.marks.of_same rfl rfl
  contents := h.contents
  claimed := h.claimed
  answered := h.answered
  exclusive := exclusive_setCreation h hnext
  knows j other hother := by
    have hstays : other.Knows state := by
      rcases setCreation_cases hother with ⟨_, hnew⟩ | ⟨_, hold⟩
      · exact hknows other hnew
      · exact h.knows j other hold
    exact hstays.stay rfl rfl fun _ _ _ hmark => hmark
  conflicts := h.conflicts

theorem ClaimsSound.setPhase (hcreation : state.creations i = some creation)
    (hlocked : creation.isLocked)
    {phase : CreationPhase} (hknows : ({ creation with phase } : Creation).Knows state) :
    ClaimsSound sha256 (state.setCreation i (some { creation with phase })) := by
  refine h.setCreation (fun next he _ j other hother hlocked' hworkspace => ?_) fun next he => ?_
  · obtain rfl := some.inj he
    exact h.exclusive j i other creation hother hcreation hlocked' hlocked hworkspace
  · exact some.inj he ▸ hknows

end

/-! ## Answers -/

variable {result : Except AppError AnsweredAction}

theorem filter_answer (state : ActionState) (i : Nat)
    (hclaims : ∀ key, ActionAnswer.claims key
      ⟨creation.params.key, creation.params.hashedContent, result⟩ = false)
    (key : ActionSourceKey) :
    (state.answer i creation result).answers.filter (ActionAnswer.claims key) =
      state.answers.filter (ActionAnswer.claims key) := by
  simp [ActionState.answer, filter_append, hclaims]

/-- The answers after one more of them. -/
theorem mem_answer {answer : ActionAnswer} :
    answer ∈ (state.answer i creation result).answers ↔ answer ∈ state.answers ∨
      answer = ⟨creation.params.key, creation.params.hashedContent, result⟩ := by
  simp [ActionState.answer]

section
variable (h : ClaimsSound sha256 state)
include h

/-- An answer that refuses the request, or that is the action of the claim. -/
theorem ClaimsSound.answer (hclaims : ∀ key, ActionAnswer.claims key
      ⟨creation.params.key, creation.params.hashedContent, result⟩ = false)
    (hanswered : ∀ action, result = .ok action →
      Claimed state creation.params.key creation.params.hashedContent action.id ∧
        ∃ source, state.sources.find? creation.params.key = some source)
    (hconflict : ∀ answer ∈ state.answers, answer.key = creation.params.key →
      (∃ action, answer.result = .ok action) → answer.content ≠ creation.params.hashedContent →
      result = .error idempotencyConflict) :
    ClaimsSound sha256 (state.answer i creation result) := by
  have hfilter := filter_answer state i hclaims
  have hsame : MarksStay state.store (state.answer i creation result).store :=
    fun _ _ _ hmark => hmark
  refine ⟨h.marks.of_same rfl rfl, fun answer hmem => ?_, fun key source hsource => ?_,
    fun answer hmem action hok => ?_, exclusive_setCreation h ?_, fun j other hother => ?_, ?_⟩
  · rcases mem_answer.1 hmem with hmem | rfl
    · exact h.contents answer hmem
    · exact isContent_hashedContent creation.params
  · obtain ⟨content, hclaimed, hhash⟩ := h.claimed key source hsource
    exact ⟨content, hclaimed.stay (hfilter key) hsame, hhash⟩
  · rcases mem_answer.1 hmem with hmem | rfl
    · obtain ⟨hclaimed, hsource⟩ := h.answered answer hmem action hok
      exact ⟨hclaimed.stay (hfilter _) hsame, hsource⟩
    · obtain ⟨hclaimed, hsource⟩ := hanswered action hok
      exact ⟨hclaimed.stay (hfilter _) hsame, hsource⟩
  · intro creation he
    exact absurd he (some_ne_none creation).symm
  · have hold : other.Knows state := by
      rcases setCreation_cases hother with ⟨_, hnew⟩ | ⟨_, hold⟩
      · exact absurd hnew (some_ne_none other).symm
      · exact h.knows j other hold
    unfold Creation.Knows at hold ⊢
    split at hold
    · trivial
    · trivial
    · exact hold
    · exact hold.stay (hfilter _) hsame
    · exact hold.stay (hfilter _) hsame
  · refine pairwise_append.2 ⟨h.conflicts, pairwise_singleton .., ?_⟩
    intro answer hmem later hlater hkey hok hcontent
    obtain rfl := mem_singleton.1 hlater
    exact hconflict answer hmem hkey hok hcontent

/-- A request that is refused, where the answers of its source so far have its content. -/
theorem ClaimsSound.answer_error {e : AppError}
    (hcontent : e = idempotencyConflict ∨ ∀ answer ∈ state.answers,
      answer.key = creation.params.key → (∃ action, answer.result = .ok action) →
      answer.content = creation.params.hashedContent) :
    ClaimsSound sha256 (state.answer i creation (.error e)) := by
  refine h.answer (fun key => ?_) nofun fun answer hmem hkey hok hne => ?_
  · simp [ActionAnswer.claims]
  · rcases hcontent with rfl | hcontent
    · rfl
    · exact absurd (hcontent answer hmem hkey hok) hne

theorem ClaimsSound.content_eq (hclaimed : Claimed state creation.params.key content id) :
    ∀ answer ∈ state.answers, answer.key = creation.params.key →
      (∃ action, answer.result = .ok action) → answer.content = content := by
  rintro answer hmem hkey ⟨action, hok⟩
  obtain ⟨hanswered, _⟩ := h.answered answer hmem action hok
  rw [hkey] at hanswered
  exact hanswered.content_eq hclaimed

theorem ClaimsSound.source_of_claimed (hclaimed : Claimed state key content id) :
    ∃ source, state.sources.find? key = some source := by
  obtain ⟨answer, action, hanswer, hok, _, _⟩ := hclaimed
  have hmem : answer ∈ state.answers.filter (ActionAnswer.claims key) := hanswer ▸ .head _
  obtain ⟨hmem, htest⟩ := mem_filter.1 hmem
  have hkey : answer.key = key := by
    rw [ActionAnswer.claims, Bool.and_eq_true, decide_eq_true_eq] at htest
    exact htest.1
  exact hkey ▸ (h.answered answer hmem action hok).2

/-- The answer to a request whose claim was found, with the action of the claim or an error. -/
theorem ClaimsSound.answer_found
    (hclaimed : Claimed state creation.params.key creation.params.hashedContent id)
    {result : Except AppError JsString} (hid : ∀ found, result = .ok found → found = id) :
    ClaimsSound sha256 (state.answer i creation (result.map .found)) := by
  cases result with
  | error e => exact h.answer_error (.inr (h.content_eq hclaimed))
  | ok found =>
    obtain rfl := hid found rfl
    refine h.answer (fun key => ?_) (fun action hok => ?_) fun answer hmem hkey hok hne => ?_
    · simp [ActionAnswer.claims, Except.map]
    · obtain rfl := Except.ok.inj hok
      exact ⟨hclaimed, h.source_of_claimed hclaimed⟩
    · exact absurd (h.content_eq hclaimed answer hmem hkey hok) hne

end

variable {decision : ActionDecision}

theorem claims_answered :
    ActionAnswer.claims key ⟨creation.params.key, content, .ok (decision.answered id)⟩ =
      decide (creation.params.key = key) := by
  cases decision <;> simp [ActionAnswer.claims, ActionDecision.answered]

theorem answered_id : (decision.answered id).id = id := by
  cases decision <;> rfl

/-- Where a source is free, no request with it has succeeded. -/
theorem ClaimsSound.not_answered (h : ClaimsSound sha256 state)
    (hfree : state.sources.find? key = none) {answer : ActionAnswer} (hmem : answer ∈ state.answers)
    (hkey : answer.key = key) (action : AnsweredAction) : answer.result ≠ .ok action := by
  intro hok
  obtain ⟨_, source, hsource⟩ := h.answered answer hmem action hok
  rw [hkey, hfree] at hsource
  cases hsource

/-- **The first request with a source** claims it. -/
theorem ClaimsSound.commit (h : ClaimsSound sha256 state)
    (hcreation : state.creations i = some creation) (hphase : creation.phase = .unclaimed)
    {actionId : JsString}
    (hnew : creation.params.key ∉ state.sources.rows.map ActionCreationSource.key)
    (hstate : state' = { state.answer i creation (.ok (decision.answered actionId)) with
      store := store'
      sources := state.sources.insert (creation.params.claim sha256 actionId) hnew })
    (hmarks : MarksSound state') (hstay : MarksStay state.store store') :
    ClaimsSound sha256 state' := by
  have hfree : state.sources.find? creation.params.key = none := KeyedTable.find?_eq_none.2 hnew
  have hother : ∀ key, key ≠ creation.params.key →
      state'.answers.filter (ActionAnswer.claims key) =
        state.answers.filter (ActionAnswer.claims key) := by
    intro key hkey
    simp [hstate, ActionState.answer, filter_append, claims_answered, hkey.symm]
  have hbefore : state.answers.filter (ActionAnswer.claims creation.params.key) = [] := by
    refine filter_eq_nil_iff.2 fun answer hmem htest => ?_
    rw [ActionAnswer.claims, Bool.and_eq_true, decide_eq_true_eq] at htest
    cases hresult : answer.result with
    | error e => simp [hresult] at htest
    | ok action => exact h.not_answered hfree hmem htest.1 action hresult
  have hsources : ∀ key, state'.sources.find? key = (state.sources.find? key).or
      (if creation.params.key = key then some (creation.params.claim sha256 actionId) else none) :=
    fun key => hstate ▸ KeyedTable.find?_insert hnew
  have hstay' : MarksStay state.store state'.store := hstate ▸ hstay
  have hclaimed : Claimed state' creation.params.key creation.params.hashedContent actionId := by
    refine ⟨⟨creation.params.key, creation.params.hashedContent, .ok (decision.answered actionId)⟩,
      decision.answered actionId, ?_, rfl, rfl, .inl answered_id.symm⟩
    simp [hstate, ActionState.answer, filter_append, hbefore, claims_answered]
  have hkept : ∀ key content id, Claimed state key content id → Claimed state' key content id := by
    intro key content id hold
    refine hold.stay (hother key ?_) hstay'
    rintro rfl
    obtain ⟨source, hsource⟩ := h.source_of_claimed hold
    rw [hfree] at hsource
    cases hsource
  have hmem' : ∀ answer, answer ∈ state'.answers ↔ answer ∈ state.answers ∨ answer =
      ⟨creation.params.key, creation.params.hashedContent, .ok (decision.answered actionId)⟩ :=
    fun answer => hstate ▸ mem_answer (i := i)
  refine ⟨hmarks, fun answer hmem => ?_, fun key source hsource => ?_,
    fun answer hmem action hok => ?_, ?_, fun j other hj => ?_, ?_⟩
  · rcases (hmem' answer).1 hmem with hmem | rfl
    · exact h.contents answer hmem
    · exact isContent_hashedContent creation.params
  · rw [hsources] at hsource
    cases hold : state.sources.find? key with
    | some old =>
      rw [hold, some_or] at hsource
      obtain rfl := some.inj hsource
      obtain ⟨content, hclaimed, hhash⟩ := h.claimed key old hold
      exact ⟨content, hkept _ _ _ hclaimed, hhash⟩
    | none =>
      rw [hold, none_or] at hsource
      split at hsource
      · next hkey =>
        obtain rfl := some.inj hsource
        exact ⟨_, hkey ▸ hclaimed, rfl⟩
      · cases hsource
  · rcases (hmem' answer).1 hmem with hmem | rfl
    · obtain ⟨hold, source, hsource⟩ := h.answered answer hmem action hok
      exact ⟨hkept _ _ _ hold, source, by rw [hsources, hsource, some_or]⟩
    · obtain rfl := Except.ok.inj hok
      rw [answered_id]
      exact ⟨hclaimed, _, by rw [hsources, hfree, none_or, if_pos rfl]⟩
  · subst hstate
    exact exclusive_setCreation h fun creation he => absurd he (some_ne_none creation).symm
  · have hold : j ≠ i ∧ state.creations j = some other := by
      subst hstate
      rcases setCreation_cases hj with ⟨_, hnone⟩ | hold
      · exact absurd hnone (some_ne_none other).symm
      · exact hold
    have hknows := h.knows j other hold.2
    unfold Creation.Knows at hknows ⊢
    split at hknows
    · trivial
    · trivial
    · next hunclaimed =>
      rw [hsources, hknows, none_or, if_neg]
      intro hkey
      have hlocked : creation.isLocked := by
        rw [Creation.isLocked, hphase]
        exact CreationPhase.noConfusion
      have hlocked' : other.isLocked := by
        rw [Creation.isLocked, hunclaimed]
        exact CreationPhase.noConfusion
      exact hold.1 (h.exclusive j i other creation hold.2 hcreation hlocked' hlocked
        (congrArg Prod.fst hkey).symm)
    · exact hkept _ _ _ hknows
    · exact hkept _ _ _ hknows
  · have happend : state'.answers = state.answers ++ [⟨creation.params.key,
        creation.params.hashedContent, .ok (decision.answered actionId)⟩] := hstate ▸ rfl
    rw [happend]
    refine pairwise_append.2 ⟨h.conflicts, pairwise_singleton .., ?_⟩
    rintro answer hmem later hlater hkey ⟨action, hok⟩ _
    obtain rfl := mem_singleton.1 hlater
    exact absurd hok (h.not_answered hfree hmem hkey action)

/-! ## Merges -/

/-- A claim that a merge moves is still one for the same action. -/
theorem SameAction.merge (h : Resolved params store store') (hforest : DuplicateForest store)
    {first : JsString} (hsame : SameAction store first params.duplicateId) :
    SameAction store' first params.canonicalId := by
  rcases hsame with hfirst | ⟨workspaceId, hmark⟩
  · refine .inr ⟨params.workspaceId, ?_⟩
    rw [h.find, if_pos hfirst.symm]
  · -- nothing points to the duplicate
    obtain ⟨_, hduplicate, _⟩ := h.duplicate
    have hroot := hforest _ _ _ hmark
    rw [hduplicate] at hroot
    obtain rfl := (Prod.mk.inj (some.inj hroot)).2
    exact absurd hmark (h.not_canonical first)

/-- The claims after a merge. -/
theorem find?_repointSources {sources : ActionSourceTable} :
    (repointSources sources params).find? key = (sources.find? key).map fun source =>
      if source.workspaceId = params.workspaceId && source.actionId = params.duplicateId then
        source.moveTo params.canonicalId
      else source :=
  KeyedTable.find?_updateMany key_moveTo

/-- **A merge** moves the claims of the duplicate. -/
theorem ClaimsSound.merge (h : ClaimsSound sha256 state) {params : ResolveActionDuplicateParams}
    {store' : ActionStore} (hresolved : Resolved params state.store store')
    (hstate : state' = { state.setResolution i none with
      store := store', sources := repointSources state.sources params })
    (hmarks : MarksSound state') : ClaimsSound sha256 state' := by
  have hstay : MarksStay state.store state'.store :=
    hstate ▸ hresolved.stay h.marks.forest h.marks.no_empty_id
  have hanswers : state'.answers = state.answers := hstate ▸ rfl
  have hsources : ∀ key, state'.sources.find? key = (state.sources.find? key).map fun source =>
      if source.workspaceId = params.workspaceId && source.actionId = params.duplicateId then
        source.moveTo params.canonicalId
      else source := by
    intro key
    subst hstate
    exact find?_repointSources
  have hkept : ∀ key content id, Claimed state key content id → Claimed state' key content id :=
    fun key content id hclaimed => hclaimed.stay (hanswers ▸ rfl) hstay
  refine ⟨hmarks, hanswers ▸ h.contents, fun key source hsource => ?_,
    fun answer hmem action hok => ?_, ?_, fun j creation hj => ?_, hanswers ▸ h.conflicts⟩
  · rw [hsources] at hsource
    obtain ⟨old, hold, rfl⟩ := map_eq_some_iff.1 hsource
    obtain ⟨content, hclaimed, hhash⟩ := h.claimed key old hold
    refine ⟨content, ?_, ?_⟩
    · split
      · next hmoved =>
        simp only [Bool.and_eq_true, decide_eq_true_eq] at hmoved
        obtain ⟨answer, action, hanswer, hok, hcontent, hsame⟩ := hclaimed
        rw [hmoved.2] at hsame
        refine ⟨answer, action, hanswers ▸ hanswer, hok, hcontent, ?_⟩
        subst hstate
        exact hsame.merge hresolved h.marks.forest
      · exact hkept _ _ _ hclaimed
    · split
      · exact hhash
      · exact hhash
  · rw [hanswers] at hmem
    obtain ⟨hclaimed, source, hsource⟩ := h.answered answer hmem action hok
    exact ⟨hkept _ _ _ hclaimed, _, by rw [hsources, hsource, map_some]⟩
  · have hcreations : state'.creations = state.creations := hstate ▸ rfl
    exact hcreations ▸ h.exclusive
  · have hcreations : state'.creations = state.creations := hstate ▸ rfl
    have hknows := h.knows j creation (hcreations ▸ hj)
    unfold Creation.Knows at hknows ⊢
    split at hknows
    · trivial
    · trivial
    · rw [hsources, hknows, map_none]
    · exact hkept _ _ _ hknows
    · exact hkept _ _ _ hknows

/-! ## Runs -/

variable {workspaceId : JsString}

/-- The marked action of a claim leads to the action that the claim is for. -/
theorem SameAction.follow (hforest : DuplicateForest store) {first canonicalId : JsString}
    (hsame : SameAction store first id)
    (hmark : markOf store id = some (some canonicalId, workspaceId)) :
    SameAction store first canonicalId := by
  rcases hsame with rfl | ⟨workspaceId', hfirst⟩
  · exact .inr ⟨workspaceId, hmark⟩
  · have hroot := hforest _ _ _ hfirst
    rw [hmark] at hroot
    cases hroot

variable {context : WorkItemContext}

theorem claimedAction_ok {claimed : ActionCreationSource} {existing : Action}
    (h : claimedAction store context workspaceId claimed = .ok existing) :
    store.items.find? claimed.actionId = some existing ∧ existing.id = claimed.actionId := by
  obtain ⟨action, haction, h⟩ := bind_ok.1 h
  obtain ⟨_, h⟩ := invariant_bind_ok.1 h
  obtain rfl := Except.ok.inj h
  obtain ⟨hfound, hid⟩ := findAction_ok haction
  exact ⟨hid ▸ hfound, hid⟩

theorem answerClaimed_ok {existing : Action} {found : JsString}
    (h : answerClaimed context existing = .ok found) : found = existing.id := by
  obtain ⟨_, h⟩ := invariant_bind_ok.1 h
  obtain ⟨_, h⟩ := invariant_bind_ok.1 h
  exact (Except.ok.inj h).symm

theorem answerCanonical_ok {canonicalId found : JsString}
    (h : answerCanonical store context workspaceId canonicalId = .ok found) :
    found = canonicalId := by
  obtain ⟨canonical, hcanonical, h⟩ := bind_ok.1 h
  obtain ⟨_, h⟩ := invariant_bind_ok.1 h
  obtain ⟨_, h⟩ := invariant_bind_ok.1 h
  exact (Except.ok.inj h).symm.trans (findAction_ok hcanonical).2

section
variable (h : ClaimsSound sha256 state)
include h

/-- What a request that has found its claim knows. -/
theorem ClaimsSound.claimed_of_check {claimed : ActionCreationSource}
    (hfind : state.sources.find? creation.params.key = some claimed)
    (hcheck : checkPayload sha256 creation.params claimed = .ok ()) :
    Claimed state creation.params.key creation.params.hashedContent claimed.actionId := by
  obtain ⟨content, hclaimed, hhash⟩ := h.claimed _ _ hfind
  obtain ⟨answer, action, hanswer, hok, rfl, hsame⟩ := hclaimed
  have hmem : answer ∈ state.answers.filter (ActionAnswer.claims creation.params.key) :=
    hanswer ▸ .head _
  obtain ⟨hmem, htest⟩ := mem_filter.1 hmem
  rw [ActionAnswer.claims, Bool.and_eq_true, decide_eq_true_eq] at htest
  have hcontent := (checkPayload_iff (htest.1 ▸ h.contents answer hmem) hhash).1 hcheck
  exact ⟨answer, action, hanswer, hok, hcontent, hsame⟩

/-- **One step** keeps the invariant of the claims. -/
theorem ClaimsSound.step (hstep : ActionStepTo sha256 state state') :
    ClaimsSound sha256 state' := by
  have hmarks := h.marks.step hstep
  cases hstep with
  | transaction step store' hother huuid hok hlocked =>
    exact h.of_marks hmarks rfl rfl rfl (keeps_marks hother hok).stay
  | beginResolution | lockAction | readPair | countMarked | abortResolution =>
    exact h.of_marks hmarks rfl rfl rfl fun _ _ _ hmark => hmark
  | commitResolution i resolution rows marked counts preview store' hresolution hrows hmarked
      hpreview hmerge =>
    have hcurrent := h.marks.locked.current i resolution hresolution
    obtain ⟨pair, hresolve⟩ := hcurrent.commit_atomic hrows hmarked hpreview hmerge
    exact h.merge (resolveActionDuplicate_marks hresolve) rfl hmarks
  | beginCreation i context params hnone hsource =>
    refine h.setCreation (fun creation he hlocked => ?_) fun creation he => ?_
    · exact absurd (some.inj he ▸ rfl) hlocked
    · exact some.inj he ▸ trivial
  | lockSource i creation hcreation hphase hfree =>
    refine h.setCreation (fun next he _ j other hother hlocked hworkspace => ?_) fun next he => ?_
    · obtain rfl := some.inj he
      exact absurd hworkspace (hfree j other hother hlocked)
    · exact some.inj he ▸ trivial
  | findNoClaim i creation hcreation hphase hfree =>
    exact h.setPhase hcreation (by rw [Creation.isLocked, hphase]; exact CreationPhase.noConfusion)
      hfree
  | findClaim i creation claimed hcreation hphase hfind hcheck =>
    exact h.setPhase hcreation (by rw [Creation.isLocked, hphase]; exact CreationPhase.noConfusion)
      (h.claimed_of_check hfind hcheck)
  | refuseClaim i creation claimed e hcreation hphase hfind hcheck =>
    exact h.answer_error (.inl (checkPayload_error hcheck))
  | refuseExisting i creation claimed e hcreation hphase hunlocked hread =>
    have hknows := h.knows i creation hcreation
    rw [Creation.Knows, hphase] at hknows
    exact h.answer_error (.inr (h.content_eq hknows))
  | answerExisting i creation claimed existing hcreation hphase hunlocked hread hunmarked =>
    have hknows := h.knows i creation hcreation
    rw [Creation.Knows, hphase] at hknows
    exact h.answer_found hknows fun found hok =>
      (answerClaimed_ok hok).trans (claimedAction_ok hread).2
  | followMark i creation claimed existing canonicalId hcreation hphase hunlocked hread hmark =>
    refine h.setPhase hcreation
      (by rw [Creation.isLocked, hphase]; exact CreationPhase.noConfusion) ?_
    have hknows := h.knows i creation hcreation
    rw [Creation.Knows, hphase] at hknows
    obtain ⟨answer, action, hanswer, hok, hcontent, hsame⟩ := hknows
    obtain ⟨target, htarget, hnull⟩ := bind_eq_some_iff.1 hmark
    obtain ⟨rfl, _⟩ := JsString.orNull_eq_some.1 hnull
    have hmarked := markOf_of_find (claimedAction_ok hread).1
    rw [htarget] at hmarked
    exact ⟨answer, action, hanswer, hok, hcontent, hsame.follow h.marks.forest hmarked⟩
  | answerMarked i creation claimed canonicalId hcreation hphase =>
    have hknows := h.knows i creation hcreation
    rw [Creation.Knows, hphase] at hknows
    exact h.answer_found hknows fun found hok => answerCanonical_ok hok
  | refuseCreation i creation e hcreation hphase =>
    have hknows := h.knows i creation hcreation
    rw [Creation.Knows, hphase] at hknows
    refine h.answer_error (.inr fun answer hmem hkey ⟨action, hok⟩ => ?_)
    exact absurd hok (h.not_answered hknows hmem hkey action)
  | commitCreation i creation decision store' actionId hnew hcreation hphase huuid hok hlocked =>
    exact h.commit hcreation hphase hnew rfl hmarks (fulfilAction_keeps hok).stay
  | abortCreation i =>
    exact h.setCreation (fun creation he => absurd he (some_ne_none creation).symm)
      fun creation he => absurd he (some_ne_none creation).symm

/-- **Every run** keeps the invariant of the claims. -/
theorem ClaimsSound.run (hrun : state.Reachable sha256 state') : ClaimsSound sha256 state' := by
  induction hrun with
  | refl => exact h
  | tail _ hstep ih => exact ih.step hstep

end

theorem ClaimsSound.initial (hforest : DuplicateForest store) (hempty : markOf store [] = none) :
    ClaimsSound sha256 (.initial store) where
  marks := .initial hforest hempty
  contents _ hmem := absurd hmem not_mem_nil
  claimed key source hsource := by
    have hnone : (ActionState.initial store).sources.find? key = none := KeyedTable.find?_empty
    rw [hnone] at hsource
    cases hsource
  answered _ hmem := absurd hmem not_mem_nil
  exclusive i _ creation _ h := absurd h (some_ne_none creation).symm
  knows i creation h := absurd h (some_ne_none creation).symm
  conflicts := .nil

/-! ## Requests that come to a claim -/

theorem setCreation_of_ne {j : Nat} (hne : j ≠ i) :
    (state.setCreation j next).creations i = state.creations i :=
  Function.update_of_ne hne.symm _ _

/-- What the next step of a request that holds its locks can do: its claim is there or not, passes
the check or not, or the connection is lost. -/
inductive ClaimCheck (sha256 : Sha256) (state : ActionState) (i : Nat) (creation : Creation)
    (state' : ActionState) : Prop
  | free : state.sources.find? creation.params.key = none →
      ClaimCheck sha256 state i creation state'
  | pass (claimed : ActionCreationSource) : state.sources.find? creation.params.key = some claimed →
      checkPayload sha256 creation.params claimed = .ok () →
      ClaimCheck sha256 state i creation state'
  | refuse (claimed : ActionCreationSource) (e : AppError) :
      state.sources.find? creation.params.key = some claimed →
      checkPayload sha256 creation.params claimed = .error e →
      state' = state.answer i creation (.error e) → ClaimCheck sha256 state i creation state'
  | abort : state' = state.setCreation i none → ClaimCheck sha256 state i creation state'

/-- **The step of a request that holds its locks.** -/
theorem claimCheck_of_step (hcreation : state.creations i = some creation)
    (hlocked : creation.phase = .locked) (hstep : ActionStepTo sha256 state state')
    (hmoved : state'.creations i ≠ some creation) : ClaimCheck sha256 state i creation state' := by
  -- a step of another request leaves this one alone
  have hself : ∀ j (other : Creation) next, state.creations j = some other →
      state'.creations = (state.setCreation j next).creations → j = i ∧ other = creation := by
    intro j other next hother hstate
    by_cases hji : j = i
    · subst hji
      exact ⟨rfl, some.inj (hother.symm.trans hcreation)⟩
    · rw [hstate, setCreation_of_ne hji] at hmoved
      exact absurd hcreation hmoved
  have hphase : ∀ j (other : Creation) next, state.creations j = some other →
      state'.creations = (state.setCreation j next).creations → other.phase = .locked := by
    intro j other next hother hstate
    exact (hself j other next hother hstate).2 ▸ hlocked
  cases hstep with
  | transaction | beginResolution | lockAction | readPair | countMarked | commitResolution
  | abortResolution => exact absurd hcreation hmoved
  | beginCreation j context params hnone hsource =>
    have hji : j ≠ i := by
      rintro rfl
      rw [hnone] at hcreation
      cases hcreation
    rw [setCreation_of_ne hji] at hmoved
    exact absurd hcreation hmoved
  | lockSource j other hother hwaiting hfree =>
    rw [hphase j other _ hother rfl] at hwaiting
    cases hwaiting
  | findNoClaim j other hother hphase' hfree =>
    obtain ⟨rfl, rfl⟩ := hself j other _ hother rfl
    exact .free hfree
  | findClaim j other claimed hother hphase' hfind hcheck =>
    obtain ⟨rfl, rfl⟩ := hself j other _ hother rfl
    exact .pass claimed hfind hcheck
  | refuseClaim j other claimed e hother hphase' hfind hcheck =>
    obtain ⟨rfl, rfl⟩ := hself j other none hother rfl
    exact .refuse claimed e hfind hcheck rfl
  | followMark j other claimed existing canonicalId hother hphase' hunlocked hread hmark =>
    rw [hphase j other _ hother rfl] at hphase'
    cases hphase'
  | refuseExisting j other _ _ hother hphase' | answerExisting j other _ _ hother hphase'
  | answerMarked j other _ _ hother hphase' | refuseCreation j other _ hother hphase'
  | commitCreation j other _ _ _ _ hother hphase' =>
    rw [hphase j other none hother rfl] at hphase'
    cases hphase'
  | abortCreation j =>
    by_cases hji : j = i
    · exact hji ▸ .abort (hji ▸ rfl)
    · rw [setCreation_of_ne hji] at hmoved
      exact absurd hcreation hmoved

/-- **Actions are created once for a source**, in every run of requests that create actions, resolve
duplicates, or write actions in another way. Of the requests with one source at most one creates an
action or is matched to one. All that succeed answer with this action, or the one that it is marked
with. After the first success, a request with another content is answered with a conflict, and its
only step then leaves the actions and the claims alone. -/
theorem createAction_idempotent {store : ActionStore} (hforest : DuplicateForest store)
    (hempty : markOf store [] = none)
    (hrun : (ActionState.initial store).Reachable sha256 state) (key : ActionSourceKey) :
    (state.answers.filter (ActionAnswer.claims key)).length ≤ 1 ∧
    (∃ first, ∀ answer ∈ state.answers, answer.key = key → ∀ action, answer.result = .ok action →
      SameAction state.store first action.id ∧ (answer.claims key = true → action.id = first)) ∧
    (state.answers.Pairwise fun first later => first.key = key → later.key = key →
      (∃ action, first.result = .ok action) → first.content ≠ later.content →
        later.result = .error idempotencyConflict) ∧
    ∀ i creation, state.creations i = some creation → creation.params.key = key →
      creation.phase = .locked →
      (∃ answer ∈ state.answers, answer.key = key ∧ (∃ action, answer.result = .ok action) ∧
        answer.content ≠ creation.params.hashedContent) →
      ∀ state', ActionStepTo sha256 state state' → state'.creations i ≠ some creation →
        state'.store = state.store ∧ state'.sources = state.sources ∧
          (state'.answers = state.answers ∨ state'.answers = state.answers ++
            [⟨key, creation.params.hashedContent, .error idempotencyConflict⟩]) := by
  have hsound : ClaimsSound sha256 state := (ClaimsSound.initial hforest hempty).run hrun
  have hanswered : ∀ answer ∈ state.answers, answer.key = key → ∀ action,
      answer.result = .ok action → Claimed state key answer.content action.id := by
    rintro answer hmem rfl action hok
    exact (hsound.answered answer hmem action hok).1
  refine ⟨?_, ?_, ?_, ?_⟩
  · by_contra hmany
    obtain ⟨answer, hmem⟩ := exists_mem_of_length_pos (by omega :
      0 < (state.answers.filter (ActionAnswer.claims key)).length)
    obtain ⟨hmem, htest⟩ := mem_filter.1 hmem
    rw [ActionAnswer.claims, Bool.and_eq_true, decide_eq_true_eq] at htest
    cases hresult : answer.result with
    | error e => simp [hresult] at htest
    | ok action =>
      obtain ⟨first, _, hfirst, _⟩ := hanswered answer hmem htest.1 action hresult
      rw [hfirst] at hmany
      exact hmany le_rfl
  · by_cases hsome : ∃ answer ∈ state.answers, answer.key = key ∧
        ∃ action, answer.result = .ok action
    · obtain ⟨answer, hmem, hkey, action, hok⟩ := hsome
      obtain ⟨first, firstAction, hfirst, hfirstOk, _, _⟩ := hanswered answer hmem hkey action hok
      refine ⟨firstAction.id, fun other hother hkey' action' hok' => ⟨?_, fun hclaims => ?_⟩⟩
      · obtain ⟨first', _, hfirst', hfirstOk', _, hsame⟩ :=
          hanswered other hother hkey' action' hok'
        obtain rfl := (cons.inj (hfirst.symm.trans hfirst')).1
        obtain rfl := Except.ok.inj (hfirstOk.symm.trans hfirstOk')
        exact hsame
      · have hmem' : other ∈ state.answers.filter (ActionAnswer.claims key) :=
          mem_filter.2 ⟨hother, hclaims⟩
        rw [hfirst, mem_singleton] at hmem'
        rw [hmem', hfirstOk] at hok'
        rw [← Except.ok.inj hok']
    · exact ⟨[], fun answer hmem hkey action hok => absurd ⟨answer, hmem, hkey, action, hok⟩ hsome⟩
  · exact hsound.conflicts.imp fun h hfirst hlater => h (hfirst.trans hlater.symm)
  · rintro i creation hcreation rfl hlocked ⟨answer, hmem, hkey, ⟨action, hok⟩, hne⟩ state' hstep
      hmoved
    have hclaimed := hanswered answer hmem hkey action hok
    cases claimCheck_of_step hcreation hlocked hstep hmoved with
    | free hfree => exact absurd hok (hsound.not_answered hfree hmem hkey action)
    | pass claimed hfind hcheck =>
      exact absurd (hclaimed.content_eq (hsound.claimed_of_check hfind hcheck)) hne
    | refuse claimed e hfind hcheck hstate =>
      obtain rfl := checkPayload_error hcheck
      subst hstate
      exact ⟨rfl, rfl, .inr rfl⟩
    | abort hstate =>
      subst hstate
      exact ⟨rfl, rfl, .inl rfl⟩

end

/-! ## Two requests -/

/-- A request of the web with a key. -/
def sourcedRequest (title : String) : SourcedActionParams where
  workspaceId := .lit "w"
  title := .lit title
  source := ⟨.lit "WEB_REQUEST", .lit "key", none⟩

/-- What the first one writes. -/
def firstCreated : Except AppError (ActionStore × JsString) :=
  fulfilAction twoActions reviewerContext (sourcedRequest "First") .create

theorem firstCreated_id : firstCreated.map Prod.snd = .ok (.lit "c") := by decide +kernel

/-- A run in which the first request creates an action, and a second one asks for another. -/
theorem createAction_idempotent_conflict :
    ∃ state, (ActionState.initial twoActions).Reachable transparentSha256 state ∧
      state.answers.map (fun answer => answer.result.map AnsweredAction.id) =
        [.ok (.lit "c"), .error idempotencyConflict] ∧
      (state.answers.filter (ActionAnswer.claims (sourcedRequest "First").key)).length ≤ 1 := by
  have hid := firstCreated_id
  cases hcreated : firstCreated with
  | error e => rw [hcreated] at hid; cases hid
  | ok created =>
    obtain ⟨store', actionId⟩ := created
    rw [hcreated] at hid
    obtain rfl : actionId = .lit "c" := Except.ok.inj hid
    have hwaiting : ∀ (creations : Nat → Option Creation) (i : Nat) (params : SourcedActionParams),
        (∀ j other, j ≠ i → creations j ≠ some other) →
        creations i = some ⟨reviewerContext, params, .waiting⟩ →
        ∀ j other, creations j = some other → other.isLocked →
          other.params.workspaceId ≠ .lit "w" := by
      intro creations i params halone hself j other hother hlocked
      by_cases hji : j = i
      · rw [hji, hself] at hother
        exact absurd (some.inj hother ▸ rfl) hlocked
      · exact absurd hother (halone j other hji)
    have hfirst : (ActionState.initial twoActions).Reachable transparentSha256 _ :=
      (((Relation.ReflTransGen.refl.tail
        (.beginCreation 0 reviewerContext (sourcedRequest "First") rfl rfl)).tail
        (.lockSource 0 _ rfl rfl (hwaiting _ 0 _ (fun j other hj => by
          simp [ActionState.setCreation, ActionState.initial, hj]) rfl))).tail
        (.findNoClaim 0 _ rfl rfl KeyedTable.find?_empty)).tail
        (.commitCreation 0 _ .create store' (.lit "c") not_mem_nil rfl rfl (by decide)
          (show fulfilAction twoActions reviewerContext (sourcedRequest "First") .create = _ from
            hcreated)
          fun i resolution h => absurd h (some_ne_none resolution).symm)
    have hsecond : (ActionState.initial twoActions).Reachable transparentSha256 _ :=
      ((hfirst.tail (.beginCreation 1 reviewerContext (sourcedRequest "Second") rfl rfl)).tail
        (.lockSource 1 _ rfl rfl (hwaiting _ 1 _ (fun j other hj => by
          simp [ActionState.setCreation, ActionState.answer, ActionState.initial, hj])
          rfl))).tail
        (.refuseClaim 1 _ ((sourcedRequest "First").claim transparentSha256 (.lit "c"))
          idempotencyConflict rfl rfl rfl (by decide +kernel))
    exact ⟨_, hsecond, rfl,
      (createAction_idempotent duplicateForest_twoActions (by decide +kernel) hsecond _).1⟩

end Corgtex.Domain
