import Mathlib.Logic.Basic
import UnitScript.Proofs.Piece.Channel

/-!
Pieces as arrays side by side, with a place for each axis in every one of them. A request or a tick
reads and writes a single place at a time, so that the channels are as independent there as they are
where each axis has a record of its own.
-/

namespace UnitScript

def Axis.place : Axis → Fin 3
  | .x => 0
  | .y => 1
  | .z => 2

structure PieceArrays where
  position : Vector Int32 3 := .replicate 3 0
  rotation : Vector Single 3 := .replicate 3 .zero
  moves : Vector (Option Move) 3 := .replicate 3 none
  drives : Vector (Option Drive) 3 := .replicate 3 none
  visible : Bool := true
  shaded : Bool := true
  cached : Bool := true

namespace PieceArrays

variable (p : PieceArrays) (i j : Fin 3)

def moveNow (value : Int32) : PieceArrays :=
  { p with position := p.position.set i value, moves := p.moves.set i none }

def moveTo (target speed : Int32) : PieceArrays :=
  if Slide.magnitude speed = 0 then p.moveNow i target
  else { p with moves := p.moves.set i (some ⟨target, Slide.magnitude speed⟩) }

def turnNow (angle : Single) : PieceArrays :=
  { p with rotation := p.rotation.set i angle.normalize, drives := p.drives.set i none }

def turnTo (target speed : Single) : PieceArrays :=
  if speed.abs.isZero then p.turnNow i target
  else { p with drives := p.drives.set i (some (.turn target.normalize speed.abs)) }

def spinSpeed : Single :=
  match p.drives[i] with
  | some (.spin speed ..) => speed
  | _ => .zero

def spin (speed acceleration : Single) : PieceArrays :=
  let current := if acceleration.abs.isZero then speed else p.spinSpeed i
  { p with drives := p.drives.set i (some (.spin current speed acceleration.abs false)) }

def stopSpin (deceleration : Single) : PieceArrays :=
  match p.drives[i] with
  | some (.spin speed ..) =>
    if deceleration.abs.isZero then { p with drives := p.drives.set i none }
    else { p with drives := p.drives.set i (some (.spin speed .zero deceleration.abs true)) }
  | _ => p

def setFlag (flag : PieceFlag) (on : Bool) : PieceArrays :=
  match flag with
  | .visible => { p with visible := on }
  | .shaded => { p with shaded := on }
  | .cached => { p with cached := on }

def perform : PieceRequest → PieceArrays
  | .moveTo axis target speed => p.moveTo axis.place target speed
  | .moveNow axis value => p.moveNow axis.place value
  | .turnTo axis target speed => p.turnTo axis.place target speed
  | .turnNow axis angle => p.turnNow axis.place angle
  | .spin axis speed acceleration => p.spin axis.place speed acceleration
  | .stopSpin axis deceleration => p.stopSpin axis.place deceleration
  | .setFlag flag on => p.setFlag flag on

def advanceMove : PieceArrays :=
  match p.moves[i] with
  | none => p
  | some m =>
    let next := Slide.approach p.position[i] m.target m.speed
    let p := { p with position := p.position.set i next }
    if next = m.target then { p with moves := p.moves.set i none } else p

def advanceDrive : PieceArrays :=
  match p.drives[i] with
  | none => p
  | some (.turn target speed) =>
    let delta := (target - p.rotation[i]).normalize
    if delta.abs.le speed then
      { p with rotation := p.rotation.set i target, drives := p.drives.set i none }
    else
      { p with rotation := p.rotation.set i (p.rotation[i] + speed.copySign delta).normalize }
  | some (.spin speed targetSpeed acceleration stopping) =>
    let speed :=
      if acceleration.isZero then targetSpeed else speed.approach targetSpeed acceleration
    let p := { p with rotation := p.rotation.set i (p.rotation[i] + speed).normalize }
    if stopping && speed.isZero then { p with drives := p.drives.set i none }
    else
      { p with drives := p.drives.set i (some (.spin speed targetSpeed acceleration stopping)) }

def advanceAxis : PieceArrays := (p.advanceMove i).advanceDrive i

def advance : PieceArrays := [0, 1, 2].foldl advanceAxis p

def slide : Slide := ⟨p.position[i], p.moves[i]⟩

def swivel : Swivel := ⟨p.rotation[i], p.drives[i]⟩

def putSlide (s : Slide) : PieceArrays :=
  { p with position := p.position.set i s.position, moves := p.moves.set i s.move }

def putSwivel (s : Swivel) : PieceArrays :=
  { p with rotation := p.rotation.set i s.rotation, drives := p.drives.set i s.drive }

@[simp] theorem putSlide_slide : p.putSlide i (p.slide i) = p := by
  simp [putSlide, slide]

theorem putSlide_move (m : Option Move) :
    p.putSlide i { p.slide i with move := m } = { p with moves := p.moves.set i m } := by
  simp [putSlide, slide]

@[simp] theorem putSwivel_swivel : p.putSwivel i (p.swivel i) = p := by
  simp [putSwivel, swivel]

theorem putSwivel_drive (d : Option Drive) :
    p.putSwivel i { p.swivel i with drive := d } = { p with drives := p.drives.set i d } := by
  simp [putSwivel, swivel]

theorem putSwivel_rotation (r : Single) :
    p.putSwivel i { p.swivel i with rotation := r } =
      { p with rotation := p.rotation.set i r } := by
  simp [putSwivel, swivel]

theorem moveTo_eq (target speed : Int32) :
    p.moveTo i target speed = p.putSlide i ((p.slide i).moveTo target speed) := by
  unfold moveTo Slide.moveTo
  split
  · rfl
  · exact (p.putSlide_move i _).symm

theorem turnTo_eq (target speed : Single) :
    p.turnTo i target speed = p.putSwivel i ((p.swivel i).turnTo target speed) := by
  unfold turnTo Swivel.turnTo
  split
  · rfl
  · exact (p.putSwivel_drive i _).symm

theorem spin_eq (speed acceleration : Single) :
    p.spin i speed acceleration = p.putSwivel i ((p.swivel i).spin speed acceleration) :=
  (p.putSwivel_drive i _).symm

theorem stopSpin_eq (deceleration : Single) :
    p.stopSpin i deceleration = p.putSwivel i ((p.swivel i).stopSpin deceleration) := by
  have here : (p.swivel i).drive = p.drives[i] := rfl
  unfold stopSpin Swivel.stopSpin
  rw [here]
  cases found : p.drives[i] with
  | none => exact (p.putSwivel_swivel i).symm
  | some drive =>
    cases drive with
    | turn => exact (p.putSwivel_swivel i).symm
    | spin =>
      dsimp only
      split <;> exact (p.putSwivel_drive i _).symm

theorem advanceMove_eq : p.advanceMove i = p.putSlide i (p.slide i).advance := by
  have here : (p.slide i).move = p.moves[i] := rfl
  unfold advanceMove Slide.advance
  rw [here]
  cases found : p.moves[i] with
  | none => exact (p.putSlide_slide i).symm
  | some m =>
    have kept : p.moves.set i (some m) = p.moves := by
      rw [← found]
      exact Vector.set_getElem_self _
    dsimp only
    rw [apply_ite (Slide.mk _), apply_ite (p.putSlide i)]
    refine if_congr Iff.rfl rfl ?_
    rw [putSlide, kept]
    rfl

theorem advanceDrive_eq : p.advanceDrive i = p.putSwivel i (p.swivel i).advance := by
  have here : (p.swivel i).drive = p.drives[i] := rfl
  unfold advanceDrive Swivel.advance
  rw [here]
  cases found : p.drives[i] with
  | none => exact (p.putSwivel_swivel i).symm
  | some drive =>
    cases drive with
    | turn target speed =>
      simp only [Swivel.advanceTurn]
      rw [apply_ite (p.putSwivel i)]
      exact if_congr Iff.rfl rfl (p.putSwivel_rotation i _).symm
    | spin speed targetSpeed acceleration stopping =>
      simp only [Swivel.advanceSpin]
      rw [apply_ite (Swivel.mk _), apply_ite (p.putSwivel i)]
      exact if_congr Iff.rfl rfl rfl

def read : (c : Channel) → c.State
  | .linear axis => p.slide axis.place
  | .angular axis => p.swivel axis.place
  | .flag .visible => p.visible
  | .flag .shaded => p.shaded
  | .flag .cached => p.cached

@[simp] theorem read_default (c : Channel) : ({} : PieceArrays).read c = c.rest := by
  cases c with
  | linear axis | angular axis => cases axis <;> rfl
  | flag f => cases f <;> rfl

theorem slide_putSlide (s : Slide) : (p.putSlide i s).slide j = if i = j then s else p.slide j := by
  by_cases same : i = j
  · subst same
    simp [putSlide, slide]
  · have apart : i.val ≠ j.val := Fin.val_ne_of_ne same
    simp [putSlide, slide, same, apart]

theorem swivel_putSwivel (s : Swivel) :
    (p.putSwivel i s).swivel j = if i = j then s else p.swivel j := by
  by_cases same : i = j
  · subst same
    simp [putSwivel, swivel]
  · have apart : i.val ≠ j.val := Fin.val_ne_of_ne same
    simp [putSwivel, swivel, same, apart]

theorem place_inj {a b : Axis} : a.place = b.place ↔ a = b := by
  cases a <;> cases b <;> decide

theorem slide_update (f : Slide → Slide) (a axis : Axis) :
    (p.putSlide a.place (f (p.slide a.place))).slide axis.place =
      if a = axis then f (p.slide axis.place) else p.slide axis.place := by
  rw [slide_putSlide, if_congr place_inj rfl rfl]
  split
  · next same => rw [same]
  · rfl

theorem swivel_update (f : Swivel → Swivel) (a axis : Axis) :
    (p.putSwivel a.place (f (p.swivel a.place))).swivel axis.place =
      if a = axis then f (p.swivel axis.place) else p.swivel axis.place := by
  rw [swivel_putSwivel, if_congr place_inj rfl rfl]
  split
  · next same => rw [same]
  · rfl

theorem read_perform (r : PieceRequest) (c : Channel) :
    (p.perform r).read c = c.respond r (p.read c) := by
  cases c with
  | linear axis =>
    cases r with
    | moveTo a target speed =>
      rw [perform, moveTo_eq]
      exact p.slide_update (·.moveTo target speed) a axis
    | moveNow a value => exact p.slide_update (·.moveNow value) a axis
    | setFlag f => cases f <;> rfl
    | turnNow => rfl
    | turnTo | spin | stopSpin =>
      simp only [perform, turnTo_eq, spin_eq, stopSpin_eq]
      rfl
  | angular axis =>
    cases r with
    | turnTo a target speed =>
      rw [perform, turnTo_eq]
      exact p.swivel_update (·.turnTo target speed) a axis
    | turnNow a angle => exact p.swivel_update (·.turnNow angle) a axis
    | spin a speed acceleration =>
      rw [perform, spin_eq]
      exact p.swivel_update (·.spin speed acceleration) a axis
    | stopSpin a deceleration =>
      rw [perform, stopSpin_eq]
      exact p.swivel_update (·.stopSpin deceleration) a axis
    | setFlag f => cases f <;> rfl
    | moveNow => rfl
    | moveTo =>
      rw [perform, moveTo_eq]
      rfl
  | flag f =>
    cases r with
    | setFlag g => cases f <;> cases g <;> rfl
    | _ =>
      simp only [perform, moveTo_eq, turnTo_eq, spin_eq, stopSpin_eq]
      cases f <;> rfl

theorem slide_advanceAxis :
    (p.advanceAxis i).slide j = if i = j then (p.slide j).advance else p.slide j := by
  rw [advanceAxis, advanceDrive_eq, advanceMove_eq]
  change (p.putSlide i (p.slide i).advance).slide j = _
  rw [slide_putSlide]
  split
  · next same => rw [same]
  · rfl

theorem swivel_advanceAxis :
    (p.advanceAxis i).swivel j = if i = j then (p.swivel j).advance else p.swivel j := by
  rw [advanceAxis, advanceDrive_eq, advanceMove_eq, swivel_putSwivel]
  split
  · next same => rw [same]; rfl
  · rfl

theorem read_advance (c : Channel) : p.advance.read c = c.advance (p.read c) := by
  cases c with
  | linear axis =>
    cases axis <;> simp [advance, read, slide_advanceAxis, Axis.place] <;> rfl
  | angular axis => cases axis <;> simp [advance, read, swivel_advanceAxis, Axis.place] <;> rfl
  | flag f =>
    simp only [advance, advanceAxis, List.foldl_cons, List.foldl_nil, advanceMove_eq,
      advanceDrive_eq]
    cases f <;> rfl

end PieceArrays

namespace PieceSet

def Operation.onArrays (pieces : Array PieceArrays) : Operation → Array PieceArrays
  | .perform piece request => pieces.modify piece.index (·.perform request)
  | .advance => pieces.map PieceArrays.advance

theorem read_onArrays (pieces : Array PieceArrays) (op : Operation) (place : Nat) (c : Channel) :
    (op.onArrays pieces)[place]?.map (·.read c) =
      (pieces[place]?.map (·.read c)).map (op.on place c) := by
  cases op with
  | perform piece request =>
    simp only [Operation.onArrays, Array.getElem?_modify]
    by_cases here : piece.index = place <;>
      simp [here, Operation.on, PieceArrays.read_perform, Function.comp_def]
  | advance => simp [Operation.onArrays, Operation.on, PieceArrays.read_advance, Function.comp_def]

theorem read_foldl_onArrays {pieces : Array PieceArrays} {s : PieceSet}
    (same : ∀ place c, pieces[place]?.map (·.read c) = s.read? place c) (ops : List Operation)
    (place : Nat) (c : Channel) :
    (ops.foldl Operation.onArrays pieces)[place]?.map (·.read c) =
      (s.after ops).read? place c := by
  induction ops generalizing pieces s with
  | nil => exact same place c
  | cons op rest ih =>
    apply ih
    intro place c
    rw [read_onArrays, same, read?_apply]

/-- Each channel is where its own requests and the ticks that have passed have led it, and a flag is
as it was set last, whether the axes of a piece are records or places in arrays; what is asked of
pieces that are not there changes nothing, and requests to different channels can be made in either
order. -/
theorem channels_independent (count : Nat) (ops : List Operation) :
    ((ofCount count).after ops).size = count ∧
    (∀ place c, ((ofCount count).after ops).read? place c =
      if place < count then
        some ((ops.filter (·.concerns place c)).foldl (fun state op => op.on place c state) c.rest)
      else none) ∧
    (∀ place flag, ((ofCount count).after ops).read? place (.flag flag) =
      if place < count then
        some ((ops.filterMap (·.setting? place flag)).getLast?.getD true)
      else none) ∧
    (∀ piece request, count ≤ piece.index →
      ((ofCount count).after ops).perform piece request = (ofCount count).after ops) ∧
    (∀ (s : PieceSet) (piece piece' : PieceId) (request request' : PieceRequest),
      (piece, request.channel) ≠ (piece', request'.channel) →
        (s.perform piece request).perform piece' request' =
          (s.perform piece' request').perform piece request) ∧
    ∀ place (c : Channel),
      (ops.foldl Operation.onArrays (Array.replicate count {}))[place]?.map (·.read c) =
        ((ofCount count).after ops).read? place c := by
  have size : ((ofCount count).after ops).size = count := by
    rw [size_after]
    exact Array.size_replicate
  have read place c : ((ofCount count).after ops).read? place c =
      if place < count then some (ops.foldl (fun state op => op.on place c state) c.rest)
      else none := by
    rw [read?_after, read?_ofCount]
    split <;> rfl
  refine ⟨size, ?_, ?_, ?_, ?_, ?_⟩
  · intro place c
    rw [read, foldl_on_filter]
  · intro place flag
    rw [read, Channel.rest, foldl_on_flag]
  · intro piece request missing
    exact perform_of_missing (Nat.le_trans (Nat.le_of_eq size) missing) request
  · intro s piece piece' request request' apart
    exact perform_comm apart s
  · apply read_foldl_onArrays
    intro place c
    rw [Array.getElem?_replicate, read?_ofCount]
    split <;> simp

end PieceSet

end UnitScript
