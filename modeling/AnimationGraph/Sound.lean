import AnimationGraph.Text.Json
import AnimationGraph.Value.Basic

/-! # Mixing

A sound is made of strips that play at the same time.
-/

namespace AnimationGraph.Sound

def sampleRate : Nat := 44100

/-- A part of a recording that plays from one time to another: how each of its properties is read. -/
structure Strip (m : Type -> Type) (α β : Type) where
 (start stop : m α)
 /-- How much is cut off from the front of the recording. -/
 offset : m α
 samples : m (Array β)
 volume : m β

/-- The elements from one position to another; negative ones count from the end. -/
def cut {β : Type} (xs : Array β) (start stop : Int) : Array β :=
 let place (i : Int) : Nat := if i < 0 then (xs.size + i).toNat else min i.toNat xs.size
 xs.extract (place start) (place stop)

section
variable {m : Type -> Type} {α β : Type} [Monad m] [Reckoning m α] [Add β] [Mul β] [OfNat β 0]
open Reckoning

def sampleAt (time : α) : m Int := do wholePart (<- mul (m := m) time (whole m sampleRate))

/-- A single element that stands behind the end is left out. -/
def addAt? (xs : Array β) (pos : Nat) (ch : Array β) : Option (Array β) :=
 if 1 < ch.size && xs.size < pos + ch.size then none
 else some (xs.mapIdx fun i x => if i < pos then x else (ch[i - pos]?).elim x (x + ·))

def Strip.mixInto (start stop : Int) (xs : Array β) (s : Strip m α β) : m (Array β) := do
 let first <- sampleAt (<- s.start)
 let last <- sampleAt (<- s.stop)
 if start > last || stop < first then return xs
 let i := max start first
 let shift := (<- sampleAt (<- s.offset)) - first
 let ch := cut (<- s.samples) (i + shift) (min stop last + shift)
 let volume <- s.volume
 match addAt? xs (i - start).toNat (ch.map (· * volume)) with
 | some ys => pure ys
 | none => refuse α .value

def samplesBetween (strips : m (List (Strip m α β))) (start stop : α) : m (Array β) := do
 if <- atMost stop start then return <- refuse α .value
 let start <- sampleAt start
 let stop <- sampleAt stop
 (<- strips).foldlM (Strip.mixInto start stop) (.replicate (stop - start + 1).toNat 0)

end

end AnimationGraph.Sound

namespace AnimationGraph.Sound.Fourier

def pi : Float := 3.141592653589793

def eighthPoint (x n : Nat) : Float × Float :=
 let part (k : Nat) : Float × Float :=
  let angle := .ofNat k * (0.25 * pi / .ofNat n)
  (.cos angle, .sin angle)
 if x < n then part x
 else if x < 2 * n then (part (2 * n - x)).swap
 else if x < 3 * n then
  let (c, s) := part (x - 2 * n)
  (-s, c)
 else
  let (c, s) := part (4 * n - x)
  (-c, s)

def tableShift (ps : Nat) : Nat -> Nat -> Nat
 | 0, k => k
 | fuel + 1, k => if .pow 4 k < ps then tableShift ps fuel (k + 1) else k

def addAngles (p q : Float × Float) : Float × Float := (p.1 * q.1 - p.2 * q.2, p.1 * q.2 + p.2 * q.1)

def unitPoint (k n : Nat) : Float × Float :=
 let table (i : Nat) : Float × Float := if i == 0 then (1.0, 0.0) else eighthPoint (8 * i) n
 let step := .pow 2 (tableShift ((n + 2) / 2) n 1)
 let point (i : Nat) := addAngles (table (i % step)) (table (i / step * step))
 if 2 * k ≤ n then point k
 else
  let (c, s) := point (n - k)
  (c, -s)

def entry (xs : Array Float) (i : Nat) : Float := xs.getD i 0.0

def sumDiff (out : Array Float) (i j : Nat) (a b : Float) : Array Float :=
 (out.setIfInBounds i (a + b)).setIfInBounds j (a - b)

def turn (p : Float × Float) (re im : Float) : Float × Float := (p.1 * re + p.2 * im, p.1 * im - p.2 * re)

def pass2 (n ido l1 : Nat) (cc : Array Float) : Array Float := Id.run do
 let at' (a b c : Nat) := entry cc (a + ido * (b + l1 * c))
 let ch (a b c : Nat) := a + ido * (b + 2 * c)
 let mut out := .replicate n 0.0
 for k in [0:l1] do out := sumDiff out (ch 0 0 k) (ch (ido - 1) 1 k) (at' 0 k 0) (at' 0 k 1)
 if ido % 2 == 0 then
  for k in [0:l1] do
   out := out.setIfInBounds (ch 0 1 k) (-(at' (ido - 1) k 1))
   out := out.setIfInBounds (ch (ido - 1) 0 k) (at' (ido - 1) k 0)
 if ido > 2 then
  for k in [0:l1] do
   for h in [1:(ido + 1) / 2] do
    let i := 2 * h
    if i < ido then
     let ic := ido - i
     let (tr2, ti2) := turn (unitPoint (l1 * h) n) (at' (i - 1) k 1) (at' i k 1)
     out := sumDiff out (ch (i - 1) 0 k) (ch (ic - 1) 1 k) (at' (i - 1) k 0) tr2
     out := sumDiff out (ch i 0 k) (ch ic 1 k) ti2 (at' i k 0)
 pure out

def halfRootTwo : Float := 0.7071067811865476

def pass4 (n ido l1 : Nat) (cc : Array Float) : Array Float := Id.run do
 let at' (a b c : Nat) := entry cc (a + ido * (b + l1 * c))
 let ch (a b c : Nat) := a + ido * (b + 4 * c)
 let mut out := .replicate n 0.0
 for k in [0:l1] do
  out := out.setIfInBounds (ch 0 2 k) (at' 0 k 3 - at' 0 k 1)
  out := out.setIfInBounds (ch (ido - 1) 1 k) (at' 0 k 0 - at' 0 k 2)
  out := sumDiff out (ch 0 0 k) (ch (ido - 1) 3 k) (at' 0 k 0 + at' 0 k 2) (at' 0 k 3 + at' 0 k 1)
 if ido % 2 == 0 then
  for k in [0:l1] do
   let last := at' (ido - 1) k
   out := sumDiff out (ch (ido - 1) 0 k) (ch (ido - 1) 2 k) (last 0) (halfRootTwo * (last 1 - last 3))
   out := sumDiff out (ch 0 3 k) (ch 0 1 k) (-halfRootTwo * (last 1 + last 3)) (last 2)
 if ido > 2 then
  for k in [0:l1] do
   for h in [1:(ido + 1) / 2] do
    let i := 2 * h
    if i < ido then
     let ic := ido - i
     let part (j : Nat) := turn (unitPoint (j * l1 * h) n) (at' (i - 1) k j) (at' i k j)
     let (re0, im0) := (at' (i - 1) k 0, at' i k 0)
     let (re1, im1) := part 1
     let (re2, im2) := part 2
     let (re3, im3) := part 3
     out := sumDiff out (ch (i - 1) 0 k) (ch (ic - 1) 3 k) (re0 + re2) (re3 + re1)
     out := sumDiff out (ch i 0 k) (ch ic 3 k) (im1 + im3) (im0 + im2)
     out := sumDiff out (ch (i - 1) 2 k) (ch (ic - 1) 1 k) (re0 - re2) (im1 - im3)
     out := sumDiff out (ch i 2 k) (ch ic 1 k) (re3 - re1) (im0 - im2)
 pure out

def passes : Nat -> List Nat
 | 0 => []
 | 1 => [2]
 | k + 2 => 4 :: passes k

def runPasses (n : Nat) : List Nat -> Nat -> Array Float -> Array Float
 | [], _, xs => xs
 | ip :: rest, l1, xs =>
  let ido := n / l1
  let l1 := l1 / ip
  runPasses n rest l1 (if ip == 4 then pass4 n ido l1 xs else pass2 n ido l1 xs)

def onePlusSquare (r : Float) : Float :=
 match Decimal.classify r with
 | .finite p =>
  let ps := 2 * p.exponent.natAbs
  let sum := p.mantissa * p.mantissa + .pow 2 ps
  let dropped := ps - 62
  let sticky := if sum % .pow 2 dropped == 0 then 0 else 1
  .scaleB (sum / .pow 2 dropped ||| sticky).toUInt64.toFloat (dropped - ps)
 | _ => r

def absolute (re im : Float) : Float :=
 let long := if re.abs < im.abs then im.abs else re.abs
 let short := if re.abs < im.abs then re.abs else im.abs
 if long == 0.0 || long.isInf || long.isNaN then long
 else .sqrt (onePlusSquare (short / long)) * long

def amplitudes (k : Nat) (signal : Array Float) : Array Float :=
 let n := .pow 2 k
 let packed := runPasses n (passes k) n signal
 .ofFn fun (i : Fin (n / 2 + 1)) =>
  if i.val == 0 then .abs (entry packed 0)
  else if 2 * i.val == n then .abs (entry packed (n - 1))
  else absolute (entry packed (2 * i.val - 1)) (entry packed (2 * i.val))

end AnimationGraph.Sound.Fourier

namespace AnimationGraph.Sound

def besselNear : List Float := [
 -4.4153416464793395e-18, 3.3307945188222384e-17, -2.431279846547955e-16, 1.715391285555133e-15, -1.1685332877993451e-14,
 7.676185498604936e-14, -4.856446783111929e-13, 2.95505266312964e-12, -1.726826291441556e-11, 9.675809035373237e-11,
 -5.189795601635263e-10, 2.6598237246823866e-9, -1.300025009986248e-8, 6.046995022541919e-8, -2.670793853940612e-7,
 1.1173875391201037e-6, -4.4167383584587505e-6, 1.6448448070728896e-5, -5.754195010082104e-5, 0.00018850288509584165,
 -0.0005763755745385824, 0.0016394756169413357, -0.004324309995050576, 0.010546460394594998, -0.02373741480589947,
 0.04930528423967071, -0.09490109704804764, 0.17162090152220877, -0.3046826723431984, 0.6767952744094761]

def besselFar : List Float := [
 -7.233180487874754e-18, -4.830504485944182e-18, 4.46562142029676e-17, 3.461222867697461e-17, -2.8276239805165836e-16,
 -3.425485619677219e-16, 1.7725601330565263e-15, 3.8116806693526224e-15, -9.554846698828307e-15, -4.150569347287222e-14,
 1.54008621752141e-14, 3.8527783827421426e-13, 7.180124451383666e-13, -1.7941785315068062e-12, -1.3215811840447713e-11,
 -3.1499165279632416e-11, 1.1889147107846439e-11, 4.94060238822497e-10, 3.3962320257083865e-9, 2.266668990498178e-8,
 2.0489185894690638e-7, 2.8913705208347567e-6, 6.889758346916825e-5, 0.0033691164782556943, 0.8044904110141088]

def chebyshev (coefficients : List Float) (x : Float) : Float :=
 match coefficients with
 | [] => 0.0
 | first :: rest =>
  let (b0, _, b2) := rest.foldl (fun (b0, b1, _) c => (x * b0 - b1 + c, b0, b1)) (first, 0.0, 0.0)
  0.5 * (b0 - b2)

def bessel (x : Float) : Float :=
 let x := x.abs
 if x ≤ 8.0 then .exp x * chebyshev besselNear (x / 2.0 - 2.0)
 else .exp x * chebyshev besselFar (32.0 / x - 2.0) / .sqrt x

def window (len : Nat) (beta : Float) : Array Float :=
 if len == 1 then #[1.0]
 else
  let alpha := (.ofNat len - 1.0) / 2.0
  .ofFn fun (i : Fin len) =>
   let r := (.ofNat i.val - alpha) / alpha
   bessel (beta * .sqrt (1.0 - r * r)) / bessel beta

def spectrum (xs : Array Float) (beta : Float) : Array Float :=
 let k := (Float.log (Float.ofNat xs.size) / Float.log 2.0).ceil.toUInt64.toNat
 let ch := Array.zipWith (· * ·) xs (window xs.size beta)
 let padded := ch ++ Array.replicate (Nat.pow 2 k - ch.size) 0.0
 (Fourier.amplitudes k padded).map (· / Float.ofNat xs.size * 2.0)

def smooth (attack release : Float) (old new : Array Float) : Array Float :=
 .zipWith (fun o n =>
  let k := if n < o then release else attack
  o * k + n * (1.0 - k)) old new

def smoothed (attack release : Float) : List (Array Float) -> Option (Array Float)
 | [] => none
 | first :: rest => some (rest.foldl (smooth attack release) first)

inductive Reduction where
 | mean | max

def blockSum (xs : Array Float) : Float :=
 if xs.size < 8 then xs.foldl (· + ·) 0.0
 else
  let rounds := xs.size / 8
  let partials := Array.ofFn fun (lane : Fin 8) =>
   ((List.range rounds).drop 1).foldl (fun acc r => acc + xs.getD (8 * r + lane.val) 0.0) (xs.getD lane.val 0.0)
  let p (i : Nat) := partials.getD i 0.0
  let all := ((p 0 + p 1) + (p 2 + p 3)) + ((p 4 + p 5) + (p 6 + p 7))
  (xs.extract (8 * rounds) xs.size).foldl (· + ·) all

def pairwiseSum : Nat -> Array Float -> Float
 | 0, xs => blockSum xs
 | depth + 1, xs =>
  if xs.size ≤ 128 then blockSum xs
  else
   let half := xs.size / 2 - (xs.size / 2) % 8
   pairwiseSum depth (xs.extract 0 half) + pairwiseSum depth (xs.extract half xs.size)

def Reduction.apply? (r : Reduction) (xs : Array Float) : Option Float :=
 match r with
 | .mean => some (pairwiseSum 64 xs / .ofNat xs.size)
 | .max =>
  match xs.toList with
  | [] => none
  | first :: rest => some (rest.foldl (fun best x => if x > best || x.isNaN then x else best) first)

section
variable {m : Type -> Type} {α : Type} [Monad m] [Reckoning m α]
open Reckoning

def isRange (low high : α) : m Bool := do
 let zero : α := whole m 0
 let one : α := whole m 1
 if <- atLeast low high then return false
 if <- less low zero then return false
 if <- greater low one then return false
 if <- less high zero then return false
 return !(<- greater high one)

def areRanges : List α -> m Bool
 | low :: high :: rest => do if <- isRange low high then areRanges (high :: rest) else pure false
 | _ => pure true

def arePins (pins : List α) : m Bool := do
 if pins.length < 3 then return false
 if <- areRanges pins then
  let some last := pins.getLast? | pure false
  if <- atLeast last (whole m 0 : α) then atMost last (whole m 1 : α)
  else pure false
 else pure false

/-- Pins from one number to another, at distances that grow. -/
def growingPins (growth : α -> m α) (low high rate count : α) (steps : List α) : m (List α) := do
 let scale <- div (<- growth rate) (<- sub high low)
 steps.mapM fun i => do add low (<- div (<- growth (<- div (<- mul rate i) count)) scale)

def binAt (top : Nat) (x : α) : m Int := do wholePart (<- mul (m := m) x (whole m top))

def binsBetween (top : Nat) : List α -> m (List (Int × Int))
 | low :: high :: rest => do
  let first <- binAt top low
  return (first, (<- binAt top high)) :: (<- binsBetween top (high :: rest))
 | _ => pure []

end

def widened (bin : Int × Int) : Int × Int := if bin.1 == bin.2 then (bin.1, bin.1 + 1) else bin

def exponentialLessOne (x : Float) : Float :=
 let e := .exp x
 if e == 1.0 then x
 else if e - 1.0 == -1.0 then -1.0
 else if e.isInf then e
 else (e - 1.0) * (x / .log e)

end AnimationGraph.Sound
