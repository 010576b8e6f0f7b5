import ParkFusion.Matching.Score
import ParkFusion.Proofs.DoubleSigns
import ParkFusion.Proofs.Similarity

namespace ParkFusion

open Trigonometry

theorem agreement_comm {α : Type} [DecidableEq α] (a b : Option α) :
    agreement a b = agreement b a := by
  cases a with
  | none => cases b <;> rfl
  | some a =>
    cases b with
    | none => rfl
    | some b => simp only [agreement, eq_comm]

theorem Park.vetoes_comm (a b : Park) : a.vetoes b = b.vetoes a := by
  unfold vetoes
  cases a.continent? with
  | none => cases b.continent? <;> rfl
  | some c =>
    cases b.continent? with
    | none => rfl
    | some d => simp only [ne_comm]

theorem Place.radians_neg (degrees : Float) : radians (-degrees) = -radians degrees :=
  Double.neg_mul degrees _

section Odd

variable [Trigonometry] (hodd : ∀ x : Float, sine (-x) = -sine x)

include hodd in
theorem Place.square_sine_sub (x y : Float) :
    square (sine ((x - y) / 2)) = square (sine ((y - x) / 2)) := by
  rcases Double.sub_swap x y with h | h
  · rw [h]
  · rw [h, Double.neg_div, hodd]
    exact Double.neg_mul_neg_self _

include hodd in
theorem Place.distance_comm (a b : Place) : a.distance b = b.distance a := by
  unfold distance
  dsimp only
  rw [square_sine_sub hodd (radians b.latitude), square_sine_sub hodd (radians b.longitude),
    Double.mul_comm (cosine (radians a.latitude))]

include hodd in
/-- Mirroring the one place leads as far as mirroring the other. -/
theorem Place.distance_mirrored (a b : Place) : a.distance b.mirrored = b.distance a.mirrored := by
  unfold distance mirrored
  dsimp only
  rw [square_sine_sub hodd (radians b.latitude), radians_neg, radians_neg,
    Double.neg_sub_comm (radians b.longitude), Double.mul_comm (cosine (radians a.latitude))]

include hodd in
theorem Place.tolerantDistance_comm (a b : Place) :
    a.tolerantDistance b = b.tolerantDistance a := by
  unfold tolerantDistance
  rw [distance_comm hodd a b, distance_mirrored hodd a b]

include hodd in
theorem Park.score_comm (a b : Park) : a.score b = b.score a := by
  unfold score
  rw [vetoes_comm a b, Name.similarity_comm a.name, agreement_comm a.countryCode?,
    agreement_comm a.timezoneKey?]
  cases a.place? with
  | none => cases b.place? <;> rfl
  | some p =>
    cases b.place? with
    | none => rfl
    | some q =>
      dsimp only
      rw [Place.tolerantDistance_comm hodd p q]

include hodd in
theorem Entity.score_comm (a b : Entity) : a.score b = b.score a := by
  unfold score
  rw [Name.similarity_comm a.name]
  refine if_congr ne_comm rfl ?_
  cases a.place? with
  | none => cases b.place? <;> rfl
  | some p =>
    cases b.place? with
    | none => rfl
    | some q =>
      dsimp only
      rw [Place.distance_comm hodd p q]

end Odd

/-- It does not matter in which order two records are compared, as long as the sine of an angle and
that of its opposite differ in their sign only. -/
theorem scores_symmetric [Trigonometry] (hodd : ∀ x : Float, sine (-x) = -sine x) :
    (∀ a b : Park, a.score b = b.score a) ∧ ∀ a b : Entity, a.score b = b.score a :=
  ⟨Park.score_comm hodd, Entity.score_comm hodd⟩

/-- A series with the given ratios of each term to the one before it. -/
def nestedSeries (ratios : List Float) (x : Float) : Float :=
  ratios.foldr (fun ratio rest ↦ 1 + x * ratio * rest) 1

/-- The first terms of the power series, which are enough for angles of a few degrees and the cosine
of any latitude. -/
@[reducible] def powerSeries : Trigonometry where
  sine x := x * nestedSeries [-1 / 6, -1 / 20, -1 / 42, -1 / 72, -1 / 110, -1 / 156] (x * x)
  cosine x := nestedSeries [-1 / 2, -1 / 12, -1 / 30, -1 / 56, -1 / 90, -1 / 132, -1 / 182,
    -1 / 240, -1 / 306] (x * x)
  arcsine x := x * nestedSeries [1 / 6, 9 / 20, 25 / 42, 49 / 72, 81 / 110, 121 / 156] (x * x)

theorem powerSeries_odd (x : Float) : powerSeries.sine (-x) = -powerSeries.sine x := by
  change -x * nestedSeries _ (-x * -x) = -(x * nestedSeries _ (x * x))
  rw [Double.neg_mul_neg_self, Double.neg_mul]

def europaPark : Park := {
  externalId := "w", source := "themeparks-wiki", name := "Europa-Park",
  country := some "Germany", latitude := some 48.2657, longitude := some 7.7219 }

/-- The same park with a longer name, and on the other side of the prime meridian. -/
def europaParkRust : Park := {
  externalId := "51", source := "queue-times", name := "Europa Park (Rust)",
  country := some "DE", latitude := some 48.2661, longitude := some (-7.722) }

def voletarium (source : String) (latitude : Option Float) : Entity := {
  externalId := "v", source := source, name := "Voletarium", entityType := .attraction,
  latitude := latitude, longitude := some 7.72 }

theorem scores_symmetric_europaPark :
    (∀ x : Float, powerSeries.sine (-x) = -powerSeries.sine x) ∧
      (0.75 < @Park.score powerSeries europaPark europaParkRust ∧
        @Park.score powerSeries europaPark europaParkRust =
          @Park.score powerSeries europaParkRust europaPark) ∧
      @Entity.score powerSeries (voletarium "queue-times" (some 91))
          (voletarium "themeparks-wiki" (some 48.26)) =
        @Entity.score powerSeries (voletarium "themeparks-wiki" (some 48.26))
          (voletarium "queue-times" (some 91)) := by
  obtain ⟨hparks, hentities⟩ := @scores_symmetric powerSeries powerSeries_odd
  exact ⟨powerSeries_odd, ⟨by decide +kernel, hparks _ _⟩, hentities _ _⟩

end ParkFusion
