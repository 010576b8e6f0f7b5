namespace ParkFusion

/-- The functions of angles that distances are computed with. The last bits of their values are up to
the platform. -/
class Trigonometry where
  sine : Float → Float
  cosine : Float → Float
  arcsine : Float → Float

instance : Trigonometry := ⟨Float.sin, Float.cos, Float.asin⟩

/-- Degrees north and east. -/
structure Place where
  latitude : Float
  longitude : Float
  deriving DecidableEq, Repr

namespace Place

open Trigonometry

def earthRadius : Float := 6371

/-- Beyond so many kilometres the sign of a longitude is taken to be in doubt. -/
def doubtfulDistance : Float := 1000

def radians (degrees : Float) : Float :=
  degrees * (3.14159265358979323846264338327950288 / 180)

/-- The lesser of two doubles, or the other one where one is no number. -/
def lesser (x y : Float) : Float :=
  if x.isNaN then y else if y < x then y else x

def square (x : Float) : Float :=
  x * x

section Distance

variable [Trigonometry]

/-- Great-circle distance in kilometres. -/
def distance (a b : Place) : Float :=
  let south := radians a.latitude
  let north := radians b.latitude
  let rise := north - south
  let turn := radians b.longitude - radians a.longitude
  let haversine :=
    square (sine (rise / 2)) + cosine south * cosine north * square (sine (turn / 2))
  2 * earthRadius * arcsine (lesser haversine.sqrt 1)

def mirrored (p : Place) : Place :=
  ⟨p.latitude, -p.longitude⟩

/-- The distance, or the one to the other side of the prime meridian if the places seem far apart and
that one is less. Some sources give western longitudes without their sign. -/
def tolerantDistance (a b : Place) : Float :=
  let plain := a.distance b
  if doubtfulDistance < plain then lesser plain (a.distance b.mirrored) else plain

end Distance

def isPlausible (p : Place) : Bool :=
  p.latitude.isFinite && p.longitude.isFinite &&
    -90 ≤ p.latitude && p.latitude ≤ 90 && -180 ≤ p.longitude && p.longitude ≤ 180 &&
    !(p.latitude == 0 && p.longitude == 0)

/-- Coordinates that lie on the globe; both zero stand for none. -/
def ofCoordinates? (latitude longitude : Option Float) : Option Place := do
  let p : Place := ⟨← latitude, ← longitude⟩
  if p.isPlausible then some p else none

end Place

/-- A double brought into the range from 0 to 1. -/
def clampUnit (x : Float) : Float :=
  if x < 0 then 0 else if 1 < x then 1 else x

/-- Nearness: 1 at no distance, falling evenly to 0 at the radius. -/
def nearness (distance radius : Float) : Float :=
  if radius ≤ 0 then 0 else clampUnit (1 - distance / radius)

end ParkFusion
