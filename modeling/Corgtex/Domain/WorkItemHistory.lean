import Corgtex.Domain.Actions
import Corgtex.Domain.Tensions
import Corgtex.Library.VersionLog

/-!
# The version history of tensions and actions

A transaction that succeeds is a sequence of writes to a log of versions: it leaves an item alone,
creates it, or records it once. The links of a proposal record items as they have been read before
the transaction, so they rest on an invariant: a row that has been read is older than the item now,
or has its content still (`ReadsSound`).
-/

namespace Corgtex.Domain

open List Option VersionLog

/-! ## Stores of items -/

namespace ItemStore

section
variable {α κ σ : Type} {key : α → JsString} {version : α → Nat} {content : α → κ}
  {Stores : σ → κ → κ → Prop} {store store' : ItemStore σ key} {old new : α}
  {versions : WorkItemVersionTable σ} {actor : AppActor} {params : RecordVersionParams σ}
  {ids : List JsString}

/-- The versions and contents of the items, and their version history. -/
def log (version : α → Nat) (content : α → κ) (store : ItemStore σ key) :
    VersionLog JsString κ σ where
  current id := (store.items.find? id).map fun item => (version item, content item)
  rows := store.versions.rows.map fun row => (row.entityId, row.version, row.previousState)

theorem log_sound_empty : ((empty : ItemStore σ key).log version content).Sound :=
  ⟨fun _ _ => rfl, nofun⟩

theorem current_log_write (h : ItemWrite store versions old new store') (id : JsString) :
    (store'.log version content).current id = if id = key old then some (version new, content new)
      else (store.log version content).current id := by
  simp only [log, h.find]
  split <;> rfl

theorem write_keep (h : ItemWrite store store.versions old new store')
    (hversion : version new = version old) (hcontent : content new = content old) :
    Write Stores (store.log version content) (store'.log version content) [] := by
  refine .keep (fun id => ?_) (by simp only [log, h.versions_eq])
  rw [current_log_write h, hversion, hcontent]
  split
  · next hid => simp only [log, hid, h.found, map_some]
  · rfl

theorem write_create {row : α} (hnew : store.items.find? (key row) = none)
    (hversion : version row = 1) (hrows : store'.items.rows = store.items.rows ++ [row])
    (hversions : store'.versions = store.versions) :
    Write Stores (store.log version content) (store'.log version content) [] := by
  refine .create (key row) (content row) ?_ (fun id => ?_) (by simp only [log, hversions])
  · simp only [log, hnew, map_none]
  · simp only [log, KeyedTable.find?_of_rows_append hrows hnew]
    split
    · rw [map_some, hversion]
    · rfl

theorem write_record {next : Nat} (h : ItemWrite store versions old new store')
    (hrecord : recordWorkItemVersion store.versions actor params = .ok (versions, next))
    (hchanged : params.changedFields ≠ []) (hid : params.entityId = key old)
    (hcurrent : params.currentVersion = version old) (hnext : version new = next)
    (hstores : Stores params.previousState (content old) (content new)) :
    Write Stores (store.log version content) (store'.log version content) [key old] := by
  obtain ⟨hsucc, _, row, hentity, hversion, _, hstate, hrows⟩ :=
    recordWorkItemVersion_ok hchanged hrecord
  refine .record (key old) (version old) (content old) (content new) params.previousState ?_ hstores
    (fun id => ?_) ?_
  · simp only [log, h.found, map_some]
  · rw [current_log_write h, hnext, hsucc, hcurrent]
  · simp only [log, h.versions_eq, hrows, map_append, map_cons, map_nil, hentity,
      hversion, hstate, hid, hcurrent]

theorem write_recordContent {next : Option Nat} (h : ItemWrite store versions old new store')
    (hrecord : recordContentVersion store.versions actor params = .ok (versions, next))
    (hsame : params.changedFields = [] → content new = content old)
    (hid : params.entityId = key old)
    (hcurrent : params.currentVersion = version old)
    (hnext : version new = next.getD (version old))
    (hstores : Stores params.previousState (content old) (content new)) :
    ∃ ids, ids.Nodup ∧
      Write Stores (store.log version content) (store'.log version content) ids := by
  rcases recordContentVersion_ok hrecord with
    ⟨hnil, rfl, rfl⟩ | ⟨hchanged, newVersion, rfl, hrecord'⟩
  · exact ⟨[], .nil, write_keep h hnext (hsame hnil)⟩
  · exact ⟨[key old], nodup_singleton _,
      write_record h hrecord' hchanged hid hcurrent hnext hstores⟩

/-! ### Rows that have been read -/

/-- A row that has been read is older than the item, or has its content. -/
def ReadsSound (version : α → Nat) (content : α → κ) (store : ItemStore σ key) : Prop :=
  ∀ read ∈ store.reads, ∃ v now, (store.log version content).current (key read) = some (v, now) ∧
    (version read < v ∨ version read = v ∧ content read = now)

theorem readsSound_empty : (empty : ItemStore σ key).ReadsSound version content :=
  fun _ h => absurd h not_mem_nil

theorem ReadsSound.writes (h : store.ReadsSound version content)
    (hwrites : Writes Stores (store.log version content) ids (store'.log version content))
    (hreads : store'.reads = store.reads) : store'.ReadsSound version content := by
  intro read hread
  obtain ⟨v, now, hcurrent, hread⟩ := h read (hreads ▸ hread)
  obtain ⟨new, hnew, hsame, _⟩ := hwrites.current hcurrent
  refine ⟨_, new, hnew, ?_⟩
  rcases hread with hlt | ⟨heq, hcontent⟩
  · exact .inl (Nat.lt_add_right _ hlt)
  · rcases Nat.eq_zero_or_pos (times ids (key read)) with hzero | hpos
    · exact .inr ⟨by rw [hzero, heq, Nat.add_zero], by rw [hsame hzero, hcontent]⟩
    · exact .inl (by omega)

theorem ReadsSound.read {item : α} (h : store.ReadsSound version content)
    (hfound : store.items.find? (key item) = some item) :
    ({ store with reads := store.reads ++ [item] } : ItemStore σ key).ReadsSound version
      content := by
  intro read hread
  rcases mem_append.1 hread with hread | hread
  · exact h read hread
  · obtain rfl := mem_singleton.1 hread
    exact ⟨version read, content read, by simp only [log, hfound, map_some], .inr ⟨rfl, rfl⟩⟩

/-- An item that still has the version that has been read still has its content. -/
theorem ReadsSound.content_eq {read : α} (h : store.ReadsSound version content)
    (hread : read ∈ store.reads) (hfound : store.items.find? (key old) = some old)
    (hid : key old = key read) (hversion : version old = version read) :
    content read = content old := by
  obtain ⟨v, now, hcurrent, hread⟩ := h read hread
  rw [← hid] at hcurrent
  simp only [log, hfound, map_some, some.injEq, Prod.mk.injEq] at hcurrent
  obtain ⟨rfl, rfl⟩ := hcurrent
  exact hread.elim (fun hlt => absurd hversion hlt.ne') And.right

end

end ItemStore

section
variable {context : WorkItemContext}

/-! ## Tensions -/

def tensionSystem :
    VersionedSystem TensionStore TensionStep JsString TensionContent TensionSnapshot ℚ where
  init := .empty
  apply := TensionStep.apply
  Succeeds store step := step.Succeeds store
  Expects _ step id e := step.transaction.expects = some (id, e)
  log := ItemStore.log Tension.version Tension.toTensionContent
  Stores row old _ := row.toTensionContent = old
  Once _ _ _ := True

/-- Tensions that have been read are older than the tensions now, or have their content. -/
def TensionReadsSound (store : TensionStore) : Prop :=
  store.ReadsSound Tension.version Tension.toTensionContent

section
variable {store store' : TensionStore} {hides : Bool}

/-- **What a transaction on tensions writes.** It records no tension twice. -/
theorem TensionEffect.writes (h : TensionEffect context store hides store')
    (hreads : TensionReadsSound store) : TensionReadsSound store' ∧ ∃ ids, ids.Nodup ∧
      Writes tensionSystem.Stores (tensionSystem.log store) ids (tensionSystem.log store') := by
  have hone : ∀ ids : List JsString, ids.Nodup →
      Write tensionSystem.Stores (tensionSystem.log store) (tensionSystem.log store') ids →
      store'.reads = store.reads → TensionReadsSound store' ∧ ∃ ids, ids.Nodup ∧
        Writes tensionSystem.Stores (tensionSystem.log store) ids (tensionSystem.log store') :=
    fun ids hnodup hwrite hsame =>
      ⟨ItemStore.ReadsSound.writes hreads hwrite.writes hsame, ids, hnodup, hwrite.writes⟩
  cases h with
  | keep hsame => exact ⟨hsame ▸ hreads, [], nodup_nil, hsame ▸ .nil⟩
  | read tension hfound hread =>
    subst hread
    exact ⟨ItemStore.ReadsSound.read hreads hfound, [], nodup_nil, .nil⟩
  | create row isPrivate hnew hversion _ _ _ _ hrows hversions hsame =>
    exact hone [] nodup_nil (ItemStore.write_create hnew hversion hrows hversions) hsame
  | change old new hwrite hchange =>
    refine hone [] nodup_nil (ItemStore.write_keep hwrite ?_ ?_) hwrite.reads_eq
    · cases hchange <;> rfl
    · cases hchange <;> rfl
  | edit params old data versions version _ hedit =>
    obtain ⟨ids, hnodup, hwrite⟩ : ∃ ids : List JsString, ids.Nodup ∧
        Write tensionSystem.Stores (tensionSystem.log store) (tensionSystem.log store') ids :=
      ItemStore.write_recordContent hedit.write hedit.recorded
        (fun hnil => TensionData.applyContent_eq_self hnil) rfl rfl rfl rfl
    exact hone ids hnodup hwrite hedit.write.reads_eq
  | link source old new workspaceId proposalId versions newVersion hread hid hversion hrecord
      hwrite hnew =>
    have hcontent := ItemStore.ReadsSound.content_eq hreads hread hwrite.found hid hversion
    have hrecorded : Write tensionSystem.Stores (tensionSystem.log store)
        (tensionSystem.log store') [old.id] :=
      ItemStore.write_record hwrite hrecord (cons_ne_nil _ _) hid.symm hversion.symm
        (hnew ▸ rfl) hcontent
    exact hone [old.id] (nodup_singleton _) hrecorded hwrite.reads_eq

theorem TensionStep.writes (step : TensionStep) (hreads : TensionReadsSound store) :
    TensionReadsSound (step.apply store) ∧ ∃ ids, ids.Nodup ∧
      Writes tensionSystem.Stores (tensionSystem.log store) ids
        (tensionSystem.log (step.apply store)) := by
  rcases step.apply_cases store with ⟨hsame, _⟩ | ⟨hok, _⟩
  · rw [hsame]
    exact ⟨hreads, [], nodup_nil, .nil⟩
  · exact (TensionTransaction.perform_effect hok).1.writes hreads

end

/-- **The version history of tensions.** -/
theorem tensionSystem_hasHistory : tensionSystem.HasHistory := by
  refine .of TensionReadsSound ItemStore.readsSound_empty ItemStore.log_sound_empty ?_ ?_ ?_
  · intro store step hreads
    obtain ⟨hreads', ids, hnodup, hwrites⟩ := step.writes hreads
    exact ⟨hreads', ids, hwrites, fun id _ => times_le_one hnodup⟩
  · intro store step id e hsucceeds hexpects
    obtain ⟨hok, _⟩ := (step.apply_cases store).resolve_left fun h => h.2 hsucceeds
    obtain ⟨tension, hfound, he⟩ := (TensionTransaction.perform_effect hok).2 id e hexpects
    exact ⟨tension.version, tension.toTensionContent, congrArg (Option.map _) hfound, he⟩
  · intro store step hfails
    exact ((step.apply_cases store).resolve_right fun h => hfails h.2).1

/-! ## Actions -/

/-- The row holds what a change of the content overwrites: the content, or the body where only the
body changes. -/
def ActionSnapshot.Stores (row : ActionSnapshot) (old new : ActionContent) : Prop :=
  match row with
  | .fields content _ _ _ _ => content = old
  | .bodyMd body => body = old.bodyMd ∧ new = { old with bodyMd := new.bodyMd }

def actionSystem :
    VersionedSystem ActionStore ActionStep JsString ActionContent ActionSnapshot ℚ where
  init := .empty
  apply := ActionStep.apply
  Succeeds store step := step.Succeeds store
  Expects _ step id e := (id, e) ∈ step.transaction.expects
  log := ItemStore.log Action.version Action.toActionContent
  Stores := ActionSnapshot.Stores
  Once _ _ _ := True

/-- Actions that have been read are older than the actions now, or have their content. -/
def ActionReadsSound (store : ActionStore) : Prop :=
  store.ReadsSound Action.version Action.toActionContent

/-- A sequence of writes that records no action twice. -/
def ActionWrites (store store' : ActionStore) : Prop :=
  ActionReadsSound store' ∧ ∃ ids, ids.Nodup ∧
    Writes actionSystem.Stores (actionSystem.log store) ids (actionSystem.log store')

section
variable {store store₁ store' : ActionStore} {hides : Bool}

/-- A single write records no action twice. -/
theorem ActionWrites.of_write {ids : List JsString} (hreads : ActionReadsSound store)
    (hnodup : ids.Nodup)
    (hwrite : Write actionSystem.Stores (actionSystem.log store) (actionSystem.log store') ids)
    (hsame : store'.reads = store.reads) : ActionWrites store store' :=
  ⟨ItemStore.ReadsSound.writes hreads hwrite.writes hsame, ids, hnodup, hwrite.writes⟩

theorem ActionKeep.write (h : ActionKeep context store store') :
    Write actionSystem.Stores (actionSystem.log store) (actionSystem.log store') [] ∧
      store'.reads = store.reads := by
  cases h with
  | same hsame => exact hsame ▸ ⟨.keep (fun _ => rfl) rfl, rfl⟩
  | change old new hwrite hchange =>
    refine ⟨ItemStore.write_keep hwrite ?_ ?_, hwrite.reads_eq⟩
    · cases hchange <;> rfl
    · cases hchange <;> rfl

theorem ActionEffect.writes (h : ActionEffect context hides store store')
    (hreads : ActionReadsSound store) : ActionWrites store store' := by
  cases h with
  | keep hkeep => exact .of_write hreads nodup_nil hkeep.write.1 hkeep.write.2
  | read action hfound hread =>
    subst hread
    exact ⟨ItemStore.ReadsSound.read hreads hfound, [], .nil, .nil⟩
  | create row isPrivate hnew hversion _ _ _ hrows hversions hsame =>
    exact .of_write hreads nodup_nil (ItemStore.write_create hnew hversion hrows hversions) hsame
  | edit params old data versions version _ hedit =>
    obtain ⟨ids, hnodup, hwrite⟩ : ∃ ids : List JsString, ids.Nodup ∧
        Write actionSystem.Stores (actionSystem.log store) (actionSystem.log store') ids :=
      ItemStore.write_recordContent hedit.write hedit.recorded
        (fun hnil => ActionData.applyContent_eq_self hnil) rfl rfl rfl (.refl old.toActionContent)
    exact .of_write hreads hnodup hwrite hedit.write.reads_eq

/-- A link records an action that has been read with the version it has now. -/
theorem ActionLink.write (h : ActionLink context store store') (hreads : ActionReadsSound store) :
    ∃ related ∈ store.reads, ∃ content,
      (actionSystem.log store).current related.id = some (related.version, content) ∧
        Write actionSystem.Stores (actionSystem.log store) (actionSystem.log store') [related.id] ∧
        store'.reads = store.reads := by
  obtain ⟨related, old, new, workspaceId, proposalId, versions, newVersion, hread, hid, hversion,
    hrecord, hwrite, hnew⟩ := h
  have hcontent := ItemStore.ReadsSound.content_eq hreads hread hwrite.found hid hversion
  refine ⟨related, hread, old.toActionContent, ?_, ?_, hwrite.reads_eq⟩
  · rw [← hid, ← hversion]
    exact congrArg (Option.map _) hwrite.found
  · rw [← hid]
    exact ItemStore.write_record hwrite hrecord (cons_ne_nil _ _) hid.symm hversion.symm
      (hnew ▸ rfl) hcontent

/-- Links that follow each other record no action twice: after the first link the action has a
version that nobody has read. -/
theorem ActionLink.writes (h : Relation.ReflTransGen (ActionLink context) store store')
    (hreads : ActionReadsSound store) : ActionWrites store store' := by
  suffices hlinked : store'.reads = store.reads ∧ ∃ ids : List JsString, ids.Nodup ∧
      Writes actionSystem.Stores (actionSystem.log store) ids (actionSystem.log store') ∧
      ∀ read ∈ store.reads, read.id ∈ ids → ∃ v content,
        (actionSystem.log store').current read.id = some (v, content) ∧ read.version < v by
    obtain ⟨hsame, ids, hnodup, hwrites, _⟩ := hlinked
    exact ⟨ItemStore.ReadsSound.writes hreads hwrites hsame, ids, hnodup, hwrites⟩
  induction h with
  | refl => exact ⟨rfl, [], .nil, .nil, fun _ _ hmem => absurd hmem not_mem_nil⟩
  | @tail store₁ store' _ hlink ih =>
    obtain ⟨hsame, ids, hnodup, hwrites, hnewer⟩ := ih
    have hreads₁ : ActionReadsSound store₁ := ItemStore.ReadsSound.writes hreads hwrites hsame
    obtain ⟨related, hrelated, content, hcurrent, hwrite, hsame'⟩ := hlink.write hreads₁
    have hfresh : related.id ∉ ids := by
      intro hmem
      obtain ⟨v, content', hcurrent', hlt⟩ := hnewer related (hsame ▸ hrelated) hmem
      obtain ⟨rfl, _⟩ := Prod.mk.inj (some.inj (hcurrent'.symm.trans hcurrent))
      exact hlt.false
    refine ⟨hsame'.trans hsame, ids ++ [related.id], ?_, hwrites.trans hwrite.writes, ?_⟩
    · exact hnodup.append (nodup_singleton _) (disjoint_singleton.2 hfresh)
    · intro read hread hmem
      obtain ⟨v, now, hnow, hold⟩ := hreads₁ read (hsame ▸ hread)
      obtain ⟨new, hnew, _⟩ := hwrite.writes.current hnow
      refine ⟨_, new, hnew, ?_⟩
      rcases mem_append.1 hmem with hmem | hmem
      · obtain ⟨v', content', hcurrent', hlt⟩ := hnewer read hread hmem
        obtain ⟨rfl, _⟩ := Prod.mk.inj (some.inj (hcurrent'.symm.trans hnow))
        exact Nat.lt_add_right _ hlt
      · have hone : times [related.id] read.id = 1 := by
          rw [mem_singleton.1 hmem]
          exact times_singleton_self
        have hle : read.version ≤ v := hold.elim Nat.le_of_lt fun h => Nat.le_of_eq h.1
        omega

theorem ActionMerge.write (h : ActionMerge context store store') :
    ∃ ids : List JsString, ids.Nodup ∧
      Write actionSystem.Stores (actionSystem.log store) (actionSystem.log store') ids ∧
      store'.reads = store.reads := by
  obtain ⟨old, new, bodyMd, workspaceId, versions, version, hrecord, hwrite, hnew⟩ := h
  obtain ⟨ids, hnodup, hwrites⟩ : ∃ ids : List JsString, ids.Nodup ∧
      Write actionSystem.Stores (actionSystem.log store) (actionSystem.log store') ids := by
    refine ItemStore.write_recordContent hwrite hrecord (fun hnil => ?_) rfl rfl (hnew ▸ rfl) ?_
    · have hbody : bodyMd = old.bodyMd := changedField_eq_nil.1 hnil
      rw [hnew, hbody]
    · rw [hnew]
      exact ⟨rfl, rfl⟩
  exact ⟨ids, hnodup, hwrites, hwrite.reads_eq⟩

/-- **What a transaction on actions writes.** It records no action twice. -/
theorem ActionEffects.writes (h : ActionEffects context hides store store')
    (hreads : ActionReadsSound store) : ActionWrites store store' := by
  cases h with
  | one heffect => exact heffect.writes hreads
  | links hlinks => exact ActionLink.writes hlinks hreads
  | merge store₁ store₂ hmerge hduplicate harchive =>
    obtain ⟨ids, hnodup, hwrite, hsame⟩ := hmerge.write
    obtain ⟨hwrite₁, hsame₁⟩ := hduplicate.write
    obtain ⟨hwrite₂, hsame₂⟩ := harchive.write
    have hwrites := hwrite.writes.trans (hwrite₁.writes.trans hwrite₂.writes)
    rw [append_nil, append_nil] at hwrites
    exact ⟨ItemStore.ReadsSound.writes hreads hwrites (hsame₂.trans (hsame₁.trans hsame)), ids,
      hnodup, hwrites⟩

theorem ActionStep.writes (step : ActionStep) (hreads : ActionReadsSound store) :
    ActionWrites store (step.apply store) := by
  rcases step.apply_cases store with ⟨hsame, _⟩ | ⟨hok, _⟩
  · rw [hsame]
    exact ⟨hreads, [], nodup_nil, .nil⟩
  · exact (ActionTransaction.perform_effects hok).1.writes hreads

end

/-- **The version history of actions.** -/
theorem actionSystem_hasHistory : actionSystem.HasHistory := by
  refine .of ActionReadsSound ItemStore.readsSound_empty ItemStore.log_sound_empty ?_ ?_ ?_
  · intro store step hreads
    obtain ⟨hreads', ids, hnodup, hwrites⟩ := step.writes hreads
    exact ⟨hreads', ids, hwrites, fun id _ => times_le_one hnodup⟩
  · intro store step id e hsucceeds hexpects
    obtain ⟨hok, _⟩ := (step.apply_cases store).resolve_left fun h => h.2 hsucceeds
    obtain ⟨action, hfound, he⟩ := (ActionTransaction.perform_effects hok).2 id e hexpects
    exact ⟨action.version, action.toActionContent, congrArg (Option.map _) hfound, he⟩
  · intro store step hfails
    exact ((step.apply_cases store).resolve_right fun h => hfails h.2).1

end

end Corgtex.Domain
