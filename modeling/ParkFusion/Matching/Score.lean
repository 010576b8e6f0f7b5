import ParkFusion.Region
import ParkFusion.Park
import ParkFusion.Unicode.Blank

namespace ParkFusion

/-- 1 for equal values, -1 for different ones, 0 where one is not known. -/
def agreement {α : Type} [DecidableEq α] : Option α → Option α → Float
  | some a, some b => if a = b then 1 else -1
  | _, _ => 0

namespace Park

def timezoneKey? (p : Park) : Option String :=
  p.timezone.bind fun zone ↦
    let key := String.ofList ((Unicode.trim zone).toList.map Char.toLower)
    if key.isEmpty then none else some key

def continent? (p : Park) : Option Continent :=
  Continent.resolve? p.continent p.country

def countryCode? (p : Park) : Option String :=
  (p.country.bind Country.ofName?).map (·.code)

/-- Whether both continents are known and differ. -/
def vetoes (a b : Park) : Bool :=
  match a.continent?, b.continent? with
  | some c, some d => c ≠ d
  | _, _ => false

def sameCountryRadius : Float := 50
def otherCountryRadius : Float := 500

/-- How surely two parks are one. Without both places the name weighs more and can decide alone. -/
def score [Trigonometry] (a b : Park) : Float :=
  if a.vetoes b then 0
  else
    let name := Name.similarity a.name b.name
    let country := agreement a.countryCode? b.countryCode?
    let timezone := agreement a.timezoneKey? b.timezoneKey?
    clampUnit <|
      match a.place?, b.place? with
      | some p, some q =>
        let radius := if 0 < country then sameCountryRadius else otherCountryRadius
        0.5 * name + 0.15 * country + 0.05 * timezone +
          0.3 * nearness (p.tolerantDistance q) radius
      | _, _ => 0.8 * name + 0.15 * country + 0.05 * timezone

end Park

namespace Entity

/-- How surely two entities of one park are one: by their names and, if both places are known, by
their nearness within a kilometre. -/
def score [Trigonometry] (a b : Entity) : Float :=
  if a.entityType ≠ b.entityType then 0
  else
    let name := Name.similarity a.name b.name
    clampUnit <|
      match a.place?, b.place? with
      | some p, some q => 0.8 * name + 0.2 * nearness (p.distance q) 1
      | _, _ => name

end Entity

end ParkFusion
