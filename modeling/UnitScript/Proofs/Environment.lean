import UnitScript.Environment
import UnitScript.Proofs.Thread.WellFormed

namespace UnitScript

namespace Environment

variable {e : Environment} {id : ThreadId} {t : Thread}

@[simp] theorem thread?_create (module : Module) (unit : UnitId) (seed : UInt64) :
    (create module unit seed).thread? id = none :=
  Std.ExtTreeMap.getElem?_empty

@[simp] theorem thread?_enroll (e : Environment) (t : Thread) :
    (e.enroll t).thread? id = if t.id = id then some t else e.thread? id := by
  simp [enroll, thread?, Std.ExtTreeMap.getElem?_insert]

@[simp] theorem thread?_restore (e : Environment) (t : Thread) :
    (e.restore t).thread? id = if t.id = id then some t else e.thread? id := by
  simp [restore, thread?, Std.ExtTreeMap.getElem?_insert]

@[simp] theorem thread?_detach (e : Environment) (gone : ThreadId) :
    (e.detach gone).thread? id = if gone = id then none else e.thread? id := by
  simp [detach, thread?, Std.ExtTreeMap.getElem?_erase]

@[simp] theorem thread?_sendSignal (e : Environment) (signal : UInt32) :
    (e.sendSignal signal).thread? id = (e.thread? id).filter (!·.intercepts signal) := by
  simp [sendSignal, thread?]

theorem thread?_of_detach {gone : ThreadId} (found : (e.detach gone).thread? id = some t) :
    e.thread? id = some t := by
  rw [thread?_detach] at found
  split at found
  · cases found
  · exact found

theorem thread?_of_sendSignal {signal : UInt32}
    (found : (e.sendSignal signal).thread? id = some t) : e.thread? id = some t := by
  rw [thread?_sendSignal] at found
  exact (Option.filter_eq_some_iff.mp found).1

theorem thread?_of_inserted {e' : Environment} {t' : Thread}
    (threads : ∀ id, e'.thread? id = if t.id = id then some t else e.thread? id)
    (found : e'.thread? id = some t') : t.id = id ∧ t' = t ∨ e.thread? id = some t' := by
  rw [threads] at found
  split at found
  · next same =>
    cases found
    exact .inl ⟨same, rfl⟩
  · exact .inr found

theorem mem_threadIds : id ∈ e.threadIds ↔ ∃ t, e.thread? id = some t := by
  rw [threadIds, Std.ExtTreeMap.mem_keys, Std.ExtTreeMap.mem_iff_isSome_getElem?,
    Option.isSome_iff_exists]
  rfl

theorem contains_eq_true_iff : e.threads.contains id = true ↔ id ∈ e.threadIds := by
  rw [← Std.ExtTreeMap.mem_iff_contains, threadIds, Std.ExtTreeMap.mem_keys]

theorem threadIds_increasing (e : Environment) : e.threadIds.Pairwise (· < ·) := by
  refine Std.ExtTreeMap.ordered_keys.imp ?_
  intro a b h
  exact Std.compare_eq_lt.mp h

theorem nodup_threadIds (e : Environment) : e.threadIds.Nodup :=
  Std.ExtTreeMap.nodup_keys

theorem prepare_outcome (e : Environment) (script : ScriptId) (args : List Int32) (mask : UInt32) :
    Outcome
      (fun _ => e.module.script? script = none ∨
        ∃ entry, e.module.script? script = some entry ∧ entry.locals.toNat < args.length)
      (fun t => ∃ entry, e.module.script? script = some entry ∧
        t = .start e.nextThread script entry args mask)
      (e.prepare script args mask) := by
  unfold prepare
  split
  · next unknown => exact .inl unknown
  · next entry found =>
    split
    · next exceeds => exact .inr ⟨entry, found, exceeds⟩
    · exact ⟨entry, found, rfl⟩

theorem getStatic_outcome (e : Environment) (slot : Nat) :
    Outcome (fun _ => e.statics.size ≤ slot) (fun _ => slot < e.statics.size)
      (e.getStatic slot) := by
  unfold getStatic
  split
  · next value found => exact (Array.getElem?_eq_some_iff.mp found).1
  · next missing => exact Array.getElem?_eq_none_iff.mp missing

theorem createThread_eq_ok {script : ScriptId} {args : List Int32} {mask : UInt32}
    {e' : Environment} (h : e.createThread script args mask = .ok (id, e')) :
    ∃ entry, e.module.script? script = some entry ∧ id = e.nextThread ∧
      e' = e.enroll (.start e.nextThread script entry args mask) := by
  have outcome : Outcome (fun _ => True)
      (fun r => ∃ entry, e.module.script? script = some entry ∧ r.1 = e.nextThread ∧
        r.2 = e.enroll (.start e.nextThread script entry args mask))
      (e.createThread script args mask) := by
    refine (e.prepare_outcome script args mask).bind (fun _ _ => trivial) ?_
    rintro _ ⟨entry, found, rfl⟩
    exact ⟨entry, found, rfl, rfl⟩
  exact outcome.of_ok h

theorem startScript_eq_ok {name : String} {args : List Int32} {e' : Environment}
    (h : e.startScript name args = .ok (id, e')) :
    ∃ script entry, e.module.script? script = some entry ∧ id = e.nextThread ∧
      e' = e.enroll (.start e.nextThread script entry args 0) := by
  unfold startScript at h
  split at h
  · cases h
  · next script _ =>
    split at h
    · cases h
    · next created =>
      cases h
      exact ⟨script, createThread_eq_ok created⟩

/-- Every static variable of the module is there, and every thread of the table is well formed and
between its turns. -/
structure Sound (config : Config) (e : Environment) : Prop where
  statics : e.statics.size = e.module.staticCount
  id_eq : ∀ {id t}, e.thread? id = some t → t.id = id
  wellFormed : ∀ {id t}, e.thread? id = some t → t.WellFormed e.module config
  atRest : ∀ {id t}, e.thread? id = some t → t.AtRest e.module

variable {config : Config}

theorem sound_create (config : Config) (module : Module) (unit : UnitId) (seed : UInt64) :
    (create module unit seed).Sound config := by
  refine ⟨by simp [create], ?_, ?_, ?_⟩ <;>
    · intro id t found
      simp at found

theorem Sound.insert (h : e.Sound config) (wellFormed : t.WellFormed e.module config)
    (atRest : t.AtRest e.module) {e' : Environment} (module : e'.module = e.module)
    (statics : e'.statics = e.statics)
    (threads : ∀ id, e'.thread? id = if t.id = id then some t else e.thread? id) :
    e'.Sound config := by
  refine ⟨by rw [statics, module, h.statics], ?_, ?_, ?_⟩
  · intro id t' ht'
    obtain ⟨rfl, rfl⟩ | ht' := thread?_of_inserted threads ht'
    · rfl
    · exact h.id_eq ht'
  · intro id t' ht'
    rw [module]
    obtain ⟨-, rfl⟩ | ht' := thread?_of_inserted threads ht'
    · exact wellFormed
    · exact h.wellFormed ht'
  · intro id t' ht'
    rw [module]
    obtain ⟨-, rfl⟩ | ht' := thread?_of_inserted threads ht'
    · exact atRest
    · exact h.atRest ht'

theorem Sound.enroll (h : e.Sound config) (wellFormed : t.WellFormed e.module config)
    (atRest : t.AtRest e.module) : (e.enroll t).Sound config :=
  h.insert wellFormed atRest rfl rfl fun _ => thread?_enroll e t

theorem Sound.restore (h : e.Sound config) (wellFormed : t.WellFormed e.module config)
    (atRest : t.AtRest e.module) : (e.restore t).Sound config :=
  h.insert wellFormed atRest rfl rfl fun _ => thread?_restore e t

theorem Sound.of_subset (h : e.Sound config) {e' : Environment} (module : e'.module = e.module)
    (statics : e'.statics.size = e.statics.size)
    (threads : ∀ {id t}, e'.thread? id = some t → e.thread? id = some t) : e'.Sound config where
  statics := by rw [statics, module, h.statics]
  id_eq found := h.id_eq (threads found)
  wellFormed found := module ▸ h.wellFormed (threads found)
  atRest found := module ▸ h.atRest (threads found)

theorem Sound.detach (h : e.Sound config) (id : ThreadId) : (e.detach id).Sound config :=
  h.of_subset rfl rfl thread?_of_detach

theorem Sound.sendSignal (h : e.Sound config) (signal : UInt32) :
    (e.sendSignal signal).Sound config :=
  h.of_subset rfl rfl thread?_of_sendSignal

theorem Sound.startScript (h : e.Sound config) {name : String} {args : List Int32}
    {e' : Environment} (started : e.startScript name args = .ok (id, e')) : e'.Sound config := by
  obtain ⟨script, entry, found, -, rfl⟩ := startScript_eq_ok started
  exact h.enroll (Thread.wellFormed_start found _ args 0) (.inl rfl)

end Environment

end UnitScript
