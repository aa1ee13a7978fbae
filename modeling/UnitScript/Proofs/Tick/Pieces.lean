import UnitScript.Proofs.Piece.Slide
import UnitScript.Proofs.Tick.Sleep

namespace UnitScript

namespace Deed

def pieceOp? : Deed → Option PieceSet.Operation
  | .request piece wish => some (.perform piece wish)
  | _ => .none

def pieceOps (ds : List Deed) : List PieceSet.Operation := ds.filterMap pieceOp?

theorem pieceOps_append (ds ds' : List Deed) : pieceOps (ds ++ ds') = pieceOps ds ++ pieceOps ds' :=
  List.filterMap_append

theorem pieceOps_cons (d : Deed) (ds : List Deed) :
    pieceOps (d :: ds) = pieceOps [d] ++ pieceOps ds :=
  pieceOps_append [d] ds

theorem advances_pieceOps (ds : List Deed) : PieceSet.advances (pieceOps ds) = 0 := by
  refine List.count_eq_zero.mpr ?_
  intro member
  obtain ⟨d, -, does⟩ := List.mem_filterMap.mp member
  cases d <;> cases does

theorem slide?_after_pieceOps {s : PieceSet} {ds : List Deed} {piece : PieceId} {axis : Axis}
    (still : ∀ op ∈ pieceOps ds, op.moves piece axis = false) :
    (s.after (pieceOps ds)).slide? piece axis = s.slide? piece axis := by
  rw [PieceSet.slide?_after_of_still still, advances_pieceOps, Function.iterate_zero,
    Option.map_id_fun, id]

end Deed

def Instr.moves (piece : PieceId) (axis : Axis) : Instr → Bool
  | .animate .move p a | .animate .moveNow p a => p = piece ∧ a = axis
  | _ => false

namespace Machine

variable {σ : Type} [Host σ] {config : Config} {now : Tick} {m : Machine σ} {piece : PieceId}
  {axis : Axis}

theorem pieces_perform [LawfulHost σ] (t : Thread) (e : Environment) (host : σ) (d : Deed) :
    Host.pieces (perform t e host d).host = (Host.pieces host).after (Deed.pieceOps [d]) := by
  cases d with
  | request piece request => exact LawfulHost.pieces_request ..
  | act act => exact LawfulHost.pieces_act ..
  | setValue key value => exact LawfulHost.pieces_setValue ..
  | _ => rfl

theorem pieces_run [LawfulHost σ] (config : Config) (now : Tick) (budget : Nat) (m : Machine σ) :
    Host.pieces (m.run config now budget).2.host =
      (Host.pieces m.host).after (Deed.pieceOps (m.deeds config now budget)) := by
  induction budget generalizing m with
  | zero => rfl
  | succ budget ih =>
    rw [run, deeds]
    cases m.step config now with
    | error kind => exact LawfulHost.pieces_reportFault ..
    | ok s =>
      rw [Deed.pieceOps_cons, PieceSet.after_append, ← pieces_perform s.thread m.environment]
      cases stop : s.stop with
      | none => simpa only [stop] using ih _
      | some halt => simp only [stop, host_settle]; rfl

end Machine

theorem Execution.Genuine.waitFor {σ : Type} [Host σ] {config : Config} {now : Tick}
    {x : Execution σ} {motion : Motion} {piece : PieceId} {axis : Axis} (h : x.Genuine config now)
    (waits : x.instr = .waitFor motion piece axis)
    (moving : (Host.pieces x.machine.host).isInMotion motion piece axis = true) :
    x.step =
      { thread := { x.machine.thread with ip := x.machine.thread.ip + 1 }
        stop := some (.blocked (.motion motion piece axis)) } := by
  obtain ⟨machine, instr, step⟩ := x
  cases waits
  have shape := h.shape
  dsimp only at shape
  cases shape with
  | plain plain => cases plain
  | waits => rfl
  | passes still =>
    rw [moving] at still
    cases still

theorem Execution.Genuine.moves_eq {σ : Type} [Host σ] {config : Config} {now : Tick}
    {x : Execution σ} (h : x.Genuine config now) {op : PieceSet.Operation}
    (does : x.step.deed.pieceOp? = some op) (piece : PieceId) (axis : Axis) :
    op.moves piece axis = x.instr.moves piece axis := by
  obtain ⟨machine, instr, step⟩ := x
  have shape := h.shape
  dsimp only at shape
  cases shape with
  | @plain _ _ _ deed _ fits =>
    cases deed with
    | request p wish =>
      cases does
      obtain rfl : instr = wish.instr p := fits
      cases wish <;> rfl
    | _ => cases does
  | _ => cases does

namespace TickState

variable {σ : Type} [Host σ] {config : Config} {now : Tick} {s s' : TickState σ} {id : ThreadId}

theorem Turn.pieces_eq [LawfulHost σ] (turn : Turn config now s id s') :
    Host.pieces s'.host = (Host.pieces s.host).after (Deed.pieceOps (deeds config now [id] s)) := by
  cases turn with
  | gone missing =>
    rw [deeds_of_idle (dispatch?_of_missing missing)]
    rfl
  | held found blocked waits =>
    rw [deeds_of_idle (dispatch?_of_idle found (isDue_of_held blocked waits))]
    rfl
  | runs found due =>
    rw [deeds_of_due found due]
    exact Machine.pieces_run ..
  | dropped found stuck =>
    rw [deeds_of_idle (dispatch?_of_idle found (isDue_of_stuck stuck))]
    rfl

theorem pieces_foldl_turn [LawfulHost σ] (config : Config) (now : Tick) (ids : List ThreadId)
    (s : TickState σ) :
    Host.pieces (ids.foldl (turn config now) s).host =
      (Host.pieces s.host).after (Deed.pieceOps (deeds config now ids s)) := by
  induction ids generalizing s with
  | nil => rfl
  | cons id rest ih =>
    rw [List.foldl_cons, ih, (turn_cases config now s id).pieces_eq, ← PieceSet.after_append,
      ← Deed.pieceOps_append]
    exact congrArg (fun ds => (Host.pieces s.host).after (Deed.pieceOps ds))
      (deeds_append config now [id] rest s).symm

theorem Turn.host_eq {m : Machine σ} (turn : Turn config now s id s')
    (dispatched : s.dispatch? now id = some m) :
    s'.host = (m.run config now config.runtime.maxInstructionsPerRun).2.host := by
  cases turn with
  | gone missing =>
    rw [dispatch?_of_missing missing] at dispatched
    cases dispatched
  | held found blocked waits =>
    rw [dispatch?_of_idle found (isDue_of_held blocked waits)] at dispatched
    cases dispatched
  | runs found due =>
    rw [dispatch?_eq_some_iff.mpr ⟨_, found, due, rfl⟩] at dispatched
    cases dispatched
    rfl
  | dropped found stuck =>
    rw [dispatch?_of_idle found (isDue_of_stuck stuck)] at dispatched
    cases dispatched

end TickState

end UnitScript
