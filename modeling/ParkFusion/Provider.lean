import ParkFusion.Park

namespace ParkFusion

/-- What a source can report. -/
structure Capabilities where
  schedules : Bool := false
  shows : Bool := false
  restaurants : Bool := false
  lands : Bool := false
  forecasts : Bool := false
  multipleQueueTypes : Bool := false
  deriving DecidableEq, Repr

def Capabilities.supports (c : Capabilities) : EntityType → Bool
  | .attraction => true
  | .show => c.shows
  | .restaurant => c.restaurants

/-- The services that can be asked, in the order in which they are set up. -/
inductive Provider
  | themeParksWiki | queueTimes | wartezeiten
  deriving DecidableEq, Repr

namespace Provider

def all : List Provider :=
  [themeParksWiki, queueTimes, wartezeiten]

def id : Provider → String
  | themeParksWiki => "themeparks-wiki"
  | queueTimes => "queue-times"
  | wartezeiten => "wartezeiten"

def ofId? (id : String) : Option Provider :=
  all.find? (·.id = id)

def defaultUrl : Provider → String
  | themeParksWiki => "https://api.themeparks.wiki/v1"
  | queueTimes => "https://queue-times.com"
  | wartezeiten => "https://api.wartezeiten.app"

/-- The environment variable that names another address. -/
def urlVariable : Provider → String
  | themeParksWiki => "PARKFAN_THEMEPARKS_WIKI_BASE_URL"
  | queueTimes => "PARKFAN_QUEUE_TIMES_BASE_URL"
  | wartezeiten => "PARKFAN_WARTEZEITEN_BASE_URL"

/-- How rich the reports are, from 1 to 10. It only decides between sources of equal priority. -/
def completeness : Provider → UInt8
  | themeParksWiki => 10
  | queueTimes => 6
  | wartezeiten => 4

def capabilities : Provider → Capabilities
  | themeParksWiki =>
    { schedules := true, shows := true, restaurants := true, forecasts := true,
      multipleQueueTypes := true }
  | queueTimes => { lands := true }
  | wartezeiten => { schedules := true }

end Provider

end ParkFusion
