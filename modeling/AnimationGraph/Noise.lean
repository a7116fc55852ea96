
/-! # The lattice under the noise

Noise is made of values that belong to the cells of a lattice.
-/

namespace AnimationGraph.Noise

structure Triple (α : Type) where
 (x y z : α)

abbrev Point := Triple Float32
abbrev Cell := Triple Int32

variable {α β γ : Type} (p : Point) (a b : Float32) (seed : Int32) (c : Cell) (t : Float32)

namespace Triple

def map (f : α -> β) (p : Triple α) : Triple β := ⟨f p.x, f p.y, f p.z⟩
def zipWith (f : α -> β -> γ) (p : Triple α) (q : Triple β) : Triple γ := ⟨f p.x q.x, f p.y q.y, f p.z q.z⟩
instance [Add α] : Add (Triple α) := ⟨zipWith (· + ·)⟩
instance [Sub α] : Sub (Triple α) := ⟨zipWith (· - ·)⟩
instance [Mul α] : Mul (Triple α) := ⟨zipWith (· * ·)⟩
def scale (s : Float32) : Point := p.map (· * s)
def squares : Float32 := p.x * p.x + (p.y * p.y + p.z * p.z)
def blocks : Float32 := p.x.abs + p.y.abs + p.z.abs

def nearestWord (x : Float32) : Int32 :=
 let r := x.round
 if -2147483648.0 ≤ r && r < 2147483648.0 then r.toInt32 else Int32.minValue

def nearestCell : Cell := p.map nearestWord

/-- The cell that a point lies in, and where in it. -/
def parted : Cell × Point :=
 let floor := p.map Float32.floor
 (floor.nearestCell, p - floor)

def product (p : Triple (List α)) : List (Triple α) := p.x.flatMap fun x => p.y.flatMap fun y => p.z.map fun z => ⟨x, y, z⟩
def point : Point := c.map Int32.toFloat32

def hash : Int32 :=
 let h := c.z * 6971 ^^^ (c.y * 31337 ^^^ (c.x * 1619 ^^^ seed))
 h * h * 60493 * h

def value : Float32 := (c.hash seed).toFloat32 * (1.0 / 2147483648.0)

def slope (c : Cell) (p : Point) : Float32 :=
 let h := c.hash seed
 let h := h >>> 13 ^^^ h
 let turn := h &&& 13
 let u := if turn < 8 then p.x else p.y
 let v := if turn < 2 then p.y else if turn == 12 then p.x else p.z
 (if h &&& 1 != 0 then -u else u) + (if h &&& 2 != 0 then -v else v)

end Triple

def spread (word : Int32) : Point :=
 Triple.map (fun w => (w &&& 1023).toFloat32 - 511.5) ⟨word, word >>> 10, word >>> 20⟩

def blend : Float32 := (b - a) * t + a
def smooth : Float32 := ((t * 6.0 - 15.0) * t + 10.0) * t * t * t

def cubicBlend (c d t : Float32) : Float32 :=
 let p := (d - c) - (a - b)
 t * (t * (t * p)) + (t * (t * ((a - b) - p)) + (t * (c - a) + b))

def cubeBlend (t : Point) (corner : Cell -> Float32) : Float32 :=
 let edge (y z : Int32) := blend (corner ⟨0, y, z⟩) (corner ⟨1, y, z⟩) t.x
 let side (z : Int32) := blend (edge 0 z) (edge 1 z) t.y
 blend (side 0) (side 1) t.z

def inverseRoot (x : Float32) : Float32 :=
 let guess := Float32.ofBits ((0x5f3759df : Int32) - (x.toBits.toInt32 >>> 1)).toUInt32
 guess * (1.5 - 0.5 * x * guess * guess)

def least : Float32 := if a.isNaN then b else if b.isNaN then a else if b < a then b else a
def greatest : Float32 := if a.isNaN then b else if b.isNaN then a else if a < b then b else a
abbrev Field := Int32 -> Point -> Float32

def white : Field := fun seed p =>
 let fold (x : Float32) : Int32 :=
  let bits := x.toBits.toInt32
  bits ^^^ bits >>> 16
 (p.map fold).value seed

def value : Field := fun seed p =>
 let (cell, t) := p.parted
 cubeBlend (t.map smooth) fun d => (cell + d).value seed

def gradient : Field := fun seed p =>
 let (cell, t) := p.parted
 cubeBlend (t.map smooth) fun d => (cell + d).slope seed (d.zipWith (fun side a => if side == 0 then a else a - 1.0) t)

def simplex : Field := fun seed p =>
 let third : Float32 := 1.0 / 3.0
 let sixth : Float32 := 1.0 / 6.0
 let skew := third * (p.x + p.y + p.z)
 let floor := p.map fun a => (a + skew).floor
 let cell := floor.nearestCell
 let back := sixth * (floor.x + floor.y + floor.z)
 let p0 := p - floor.map (· - back)
 let xy := p0.x ≥ p0.y
 let yz := p0.y ≥ p0.z
 let xz := p0.x ≥ p0.z
 let step (b : Bool) : Int32 := if b then 1 else 0
 let first := Triple.map step ⟨xy && xz, !xy && yz, !xz && !yz⟩
 let second := Triple.map step ⟨xy || xz, !xy || yz, !(xz && yz)⟩
 let p1 := (p0 - first.point).map (· + sixth)
 let p2 := (p0 - second.point).map (· + third)
 let p3 := p0.map (· + -0.5)
 let share (c : Cell) (q : Point) : Float32 :=
  let t := 0.6 - q.x * q.x - q.y * q.y - q.z * q.z
  if t ≥ 0.0 then t * t * (t * t) * (cell + c).slope seed q else 0.0
 32.0 * (share ⟨1, 1, 1⟩ p3 + share second p2 + share first p1 + share ⟨0, 0, 0⟩ p0)

def cubic : Field := fun seed p =>
 let (cell, t) := p.parted
 let along (f : Int32 -> Float32) (t : Float32) := cubicBlend (f (-1)) (f 0) (f 1) (f 2) t
 along (fun z => along (fun y => along (fun x => (cell + ⟨x, y, z⟩).value seed) t.x) t.y) t.z
  * (1.0 / (1.5 * 1.5 * 1.5))

inductive FractalKind where
 | sum | billow | ridged
 deriving DecidableEq

structure Fractal where
 kind : FractalKind := .sum
 octaves : Int32 := 3
 lacunarity : Float32 := 2.0
 gain : Float32 := 0.5

namespace Fractal

def further (octaves : Int32) : Nat := (octaves.toInt - 1).toNat

def bound (f : Fractal) : Float32 :=
 let (sum, _) := (List.range (further f.octaves)).foldl
  (fun (sum, strength) _ => (sum + strength, strength * f.gain)) ((1.0 : Float32), f.gain)
 1.0 / sum

def shape (k : FractalKind) (v : Float32) : Float32 :=
 match k with
 | .sum => v
 | .billow => v.abs * 2.0 - 1.0
 | .ridged => 1.0 - v.abs

def addCopies (f : Fractal) (noise : Field) : Nat -> Int32 -> Point -> Float32 -> Float32 -> Float32
 | 0, _, _, _, sum => sum
 | n + 1, seed, p, strength, sum =>
  let seed := seed + 1
  let p := p.scale f.lacunarity
  let strength := strength * f.gain
  let v := shape f.kind (noise seed p)
  f.addCopies noise n seed p strength (if f.kind == .ridged then sum - v * strength else v * strength + sum)

def field (f : Fractal) (noise : Field) : Field := fun seed p =>
 let sum := f.addCopies noise (further f.octaves) seed p 1.0 (shape f.kind (noise seed p))
 if f.kind == .ridged then sum else sum * f.bound

end Fractal

inductive Distance where
 | squared | blocks | natural

inductive PairResult where
 | second | sum | difference | product | quotient | cave

inductive CellularResult where
 | cellValue | distance
 | pair (result : PairResult)
 | lookup

structure Cellular where
 distance : Distance := .squared
 jitter : Float32 := 0.45
 /-- Which of the closest feature points are told of, the closer one first. -/
 nearer : Nat := 0
 farther : Nat := 1

namespace Cellular

def Distance.measure (d : Distance) (added : Bool) (p : Point) : Float32 :=
 match d with
 | .squared => p.squares
 | .blocks => p.blocks
 | .natural => if added then p.squares + p.blocks else p.squares * p.blocks

def around (cell : Cell) (start : Point) : List (Cell × Point) :=
 (start.map fun x => [0, 1, 2].zip [x, x + 1.0, x + 1.0 + 1.0]).product.map fun t => (cell + t.map (·.1), t.map (·.2))

def feature (jitter : Float32) (word : Int32) : Point :=
 let d := spread word
 d.scale (jitter * inverseRoot d.squares)

def corner (p : Point) : Cell := p.nearestCell - ⟨1, 1, 1⟩

variable (c : Cellular) (seed : Int32)

def distances (p : Point) : List Float32 :=
 let cell := corner p
 (around cell (cell.point - p)).map fun (cell, q) =>
  Distance.measure c.distance false (feature c.jitter (cell.hash seed) + q)

def keepLeast (new : Float32) : Float32 -> List Float32 -> List Float32
 | _, [] => []
 | below, d :: ds => greatest (least d new) below :: keepLeast new d ds

def farAway : Float32 := 999999.0

def leastDistances (p : Point) : List Float32 :=
 (c.distances seed p).foldl
  (fun kept new =>
   match kept with
   | [] => []
   | d :: ds => least d new :: keepLeast new d ds)
  (List.replicate 4 farAway)

def pairOf (combine : Float32 -> Float32 -> Float32) : Field := fun seed p =>
 let kept := c.leastDistances seed p
 combine (kept.getD c.nearer farAway) (kept.getD c.farther farAway)

def pairField : PairResult -> Field
 | .second => c.pairOf fun _ b => b
 | .sum => c.pairOf (· + ·)
 | .difference => c.pairOf fun a b => b - a
 | .product => c.pairOf (· * ·)
 | .quotient => c.pairOf (· / ·)
 | .cave => fun seed p => least (c.pairOf (· / ·) seed p) (c.pairOf (· / ·) (seed + 1) (p.map (· + 0.5)))

def closest {α : Type} (none : α) (features : List (Float32 × α)) : α :=
 (features.foldl (fun (best : Float32 × α) new => (least new.1 best.1, if new.1 < best.1 then new.2 else best.2))
  (farAway, none)).2

def valueField : Field := fun seed p =>
 let cell := corner p
 closest 0.0 <| (around cell (cell.point - p)).map fun (cell, q) =>
  (Distance.measure c.distance true (feature c.jitter (cell.hash seed) + q), cell.value seed)

def lookupField (freq : Float32) (noise : Field) : Field := fun seed p =>
 let cell := corner p
 let found := closest ⟨0.0, 0.0, 0.0⟩ <| (around cell cell.point).map fun (cell, q) =>
  let f := feature c.jitter (cell.hash seed)
  (Distance.measure c.distance true (f + (q - p)), f + q)
 noise seed (found.scale freq)

end Cellular

structure Warp where
 (moves inSteps : Bool := false)
 /-- Whether points are brought to a fixed distance. -/
 normalises : Bool := false
 strength : Float32 := 1.0
 frequency : Float32 := 0.5
 steps : Int32 := 3
 lacunarity : Float32 := 2.0
 gain : Float32 := 0.5
 distance : Float32 := 1.0

namespace Warp

def shift (seed : Int32) (str freq : Float32) (p : Point) : Point :=
 let (cell, t) := (p.scale freq).parted
 let along (part : Point -> Float32) := cubeBlend (t.map smooth) fun d => part (spread ((cell + d).hash seed))
 (Triple.map along ⟨(·.x), (·.y), (·.z)⟩).scale str + p

def shiftFurther (w : Warp) : Nat -> Int32 -> Float32 -> Float32 -> Point -> Point
 | 0, _, _, _, p => p
 | n + 1, seed, strength, freq, p =>
  let freq := freq * w.lacunarity
  let seed := seed - 1
  let strength := strength * w.gain
  w.shiftFurther n seed strength freq (shift seed strength freq p)

def apply (w : Warp) (bound freq : Float32) (seed : Int32) (p : Point) : Point :=
 let p :=
  if !w.moves then p
  else if w.inSteps then
   let str := w.strength * bound
   w.shiftFurther (Fractal.further w.steps) (seed - 1) str w.frequency
    (shift (seed - 1) str w.frequency p)
  else shift (seed - 1) w.strength w.frequency p
 if w.normalises then p.scale (w.distance * freq * inverseRoot p.squares) else p

end Warp

inductive Base where
 | value | gradient | simplex | cubic

def Base.field : Base -> Field
 | .value => Noise.value
 | .gradient => Noise.gradient
 | .simplex => Noise.simplex
 | .cubic => Noise.cubic

inductive Kind where
 | plain (base : Base)
 | fractal (base : Base)
 | white | cellular

structure Source where
 seed : Int32 := 1337
 frequency : Float32 := 0.01
 kind : Kind := .fractal .simplex
 axisScales : Point := ⟨1.0, 1.0, 1.0⟩
 fractal : Fractal := {}
 cellular : Cellular := {}
 cellularResult : CellularResult := .distance
 lookup : Kind := .plain .simplex
 lookupFrequency : Float32 := 0.2
 warp : Warp := {}

namespace Source

variable (s : Source) (level : Nat) (off : Point)

def fieldOfKind : Kind -> Field
 | .plain b => b.field
 | .fractal b => s.fractal.field b.field
 | _ => fun _ _ => 0.0

def field : Field :=
 match s.kind with
 | .white => Noise.white
 | .cellular =>
  match s.cellularResult with
  | .cellValue => s.cellular.valueField
  | .distance => fun seed p => (s.cellular.distances seed p).foldl least Cellular.farAway
  | .pair r => s.cellular.pairField r
  | .lookup => s.cellular.lookupField s.lookupFrequency (s.fieldOfKind s.lookup)
 | k => s.fieldOfKind k

def warped (p : Point) : Float32 := s.field s.seed (s.warp.apply s.fractal.bound s.frequency s.seed p)

def atPoints (ps : List Point) : List Float32 :=
 let freq := s.axisScales.map (s.frequency * ·)
 ps.map fun p => s.warped (p * freq + off * freq)

structure Box where
 start : Triple Int := ⟨0, 0, 0⟩
 sides : Triple Nat

namespace Box

def indices (b : Box) : List (Triple Nat) := (b.sides.map List.range).product
def cells (b : Box) : List Cell := b.indices.map (b.start.zipWith fun a (i : Nat) => .ofInt (a + i))

end Box

def inBox (scale : Float32) (b : Box) : List Float32 :=
 match s.kind with
 | .white => b.cells.map (·.value s.seed)
 | _ =>
  let scale := scale * s.frequency
  let freq := s.axisScales.map (scale * ·)
  b.cells.map fun c => s.warped (c.point * freq)

def sampleCount (size side : Nat) : Nat := (side + size - 1) / size + 1

def between (size : Nat) (ahead sides counts : Triple Nat) (xs : Array Float32) : List Float32 :=
 let scale : Float32 := 1.0 / (Nat.toFloat size).toFloat32
 let part (n : Nat) : Float32 := (Nat.toFloat (n % size)).toFloat32 * scale + scale * 0.5
 (Box.indices { sides }).map fun p =>
  let p := p + ahead
  cubeBlend (p.map part) fun d =>
   let q := p.map (· / size) + d.map Int32.toNatClampNeg
   xs.getD ((q.x * counts.y + q.y) * counts.z + q.z) 0.0

def sampledInBox (b : Box) : List Float32 :=
 if level = 0 then s.inBox 1.0 b
 else
  let size := Nat.pow 2 level
  let ahead := b.start.map fun a : Int => ((size - a % size) % size).toNat
  let counts := (b.sides + ahead).map (sampleCount size)
  between size ahead b.sides counts
   (s.inBox (Nat.toFloat size).toFloat32 { start := b.start.map (Int.fdiv · size), sides := counts }).toArray

def sampledAtPoints (sides : Triple Nat) : List Float32 :=
 let size := Nat.pow 2 level
 let counts := if level = 0 then sides else sides.map (sampleCount size)
 let ps := (Box.indices { sides := counts }).map (·.map fun n => (Nat.toFloat (n * size)).toFloat32)
 if level = 0 then s.atPoints off ps
 else between size ⟨0, 0, 0⟩ sides counts (s.atPoints (off.map (· - 0.5)) ps).toArray

end Source

end AnimationGraph.Noise
