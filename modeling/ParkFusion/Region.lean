import ParkFusion.Name

namespace ParkFusion

inductive Continent
  | northAmerica | southAmerica | europe | asia | africa | oceania
  deriving DecidableEq, Repr

namespace Continent

def toText : Continent → String
  | northAmerica => "north_america"
  | southAmerica => "south_america"
  | europe => "europe"
  | asia => "asia"
  | africa => "africa"
  | oceania => "oceania"

/-- Keys of the names by which sources call a continent. -/
def aliases : List (String × Continent) := [
  ("north america", .northAmerica), ("northamerica", .northAmerica),
  ("central america", .northAmerica), ("nordamerika", .northAmerica),
  ("south america", .southAmerica), ("southamerica", .southAmerica),
  ("latin america", .southAmerica), ("sudamerika", .southAmerica), ("europe", .europe),
  ("europa", .europe), ("asia", .asia), ("asien", .asia), ("middle east", .asia),
  ("africa", .africa), ("afrika", .africa), ("oceania", .oceania), ("australia", .oceania),
  ("australia and oceania", .oceania), ("australien", .oceania)]

def ofName? (name : String) : Option Continent :=
  aliases.lookup (Name.key name)

end Continent

structure Country where
  code : String
  continent : Continent
  deriving DecidableEq, Repr

namespace Country

/-- Keys of the names and codes by which sources call a country, with its two-letter code. -/
def aliases : List (String × String × Continent) := [
  ("united states", "US", .northAmerica), ("united states of america", "US", .northAmerica),
  ("usa", "US", .northAmerica), ("us", "US", .northAmerica), ("canada", "CA", .northAmerica),
  ("ca", "CA", .northAmerica), ("mexico", "MX", .northAmerica), ("mx", "MX", .northAmerica),
  ("brazil", "BR", .southAmerica), ("brasil", "BR", .southAmerica), ("br", "BR", .southAmerica),
  ("argentina", "AR", .southAmerica), ("colombia", "CO", .southAmerica),
  ("chile", "CL", .southAmerica), ("united kingdom", "GB", .europe), ("uk", "GB", .europe),
  ("gb", "GB", .europe), ("great britain", "GB", .europe), ("england", "GB", .europe),
  ("scotland", "GB", .europe), ("grossbritannien", "GB", .europe), ("ireland", "IE", .europe),
  ("france", "FR", .europe), ("frankreich", "FR", .europe), ("fr", "FR", .europe),
  ("germany", "DE", .europe), ("deutschland", "DE", .europe), ("de", "DE", .europe),
  ("netherlands", "NL", .europe), ("the netherlands", "NL", .europe),
  ("niederlande", "NL", .europe), ("nederland", "NL", .europe), ("holland", "NL", .europe),
  ("nl", "NL", .europe), ("belgium", "BE", .europe), ("belgien", "BE", .europe),
  ("be", "BE", .europe), ("spain", "ES", .europe), ("spanien", "ES", .europe),
  ("espana", "ES", .europe), ("es", "ES", .europe), ("italy", "IT", .europe),
  ("italien", "IT", .europe), ("italia", "IT", .europe), ("it", "IT", .europe),
  ("denmark", "DK", .europe), ("danemark", "DK", .europe), ("dk", "DK", .europe),
  ("sweden", "SE", .europe), ("schweden", "SE", .europe), ("se", "SE", .europe),
  ("norway", "NO", .europe), ("norwegen", "NO", .europe), ("finland", "FI", .europe),
  ("finnland", "FI", .europe), ("poland", "PL", .europe), ("polen", "PL", .europe),
  ("pl", "PL", .europe), ("austria", "AT", .europe), ("osterreich", "AT", .europe),
  ("at", "AT", .europe), ("switzerland", "CH", .europe), ("schweiz", "CH", .europe),
  ("ch", "CH", .europe), ("czech republic", "CZ", .europe), ("czechia", "CZ", .europe),
  ("tschechien", "CZ", .europe), ("portugal", "PT", .europe), ("turkey", "TR", .europe),
  ("turkei", "TR", .europe), ("japan", "JP", .asia), ("jp", "JP", .asia), ("china", "CN", .asia),
  ("cn", "CN", .asia), ("hong kong", "HK", .asia), ("hongkong", "HK", .asia), ("hk", "HK", .asia),
  ("south korea", "KR", .asia), ("korea", "KR", .asia), ("sudkorea", "KR", .asia),
  ("kr", "KR", .asia), ("taiwan", "TW", .asia), ("singapore", "SG", .asia),
  ("singapur", "SG", .asia), ("sg", "SG", .asia), ("malaysia", "MY", .asia),
  ("thailand", "TH", .asia), ("india", "IN", .asia), ("united arab emirates", "AE", .asia),
  ("uae", "AE", .asia), ("vereinigte arabische emirate", "AE", .asia), ("ae", "AE", .asia),
  ("saudi arabia", "SA", .asia), ("australia", "AU", .oceania), ("australien", "AU", .oceania),
  ("au", "AU", .oceania), ("new zealand", "NZ", .oceania), ("south africa", "ZA", .africa),
  ("sudafrika", "ZA", .africa), ("egypt", "EG", .africa)]

def ofName? (name : String) : Option Country :=
  (aliases.lookup (Name.key name)).map fun (code, continent) ↦ ⟨code, continent⟩

end Country

/-- The continent that is named, or else that of the country. -/
def Continent.resolve? (continent country : Option String) : Option Continent :=
  (continent.bind ofName?).or ((country.bind Country.ofName?).map (·.continent))

end ParkFusion
