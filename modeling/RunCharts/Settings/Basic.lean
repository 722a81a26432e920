import RunCharts.Files.Path
import RunCharts.Log.Bandwidth

/-! # Settings -/

namespace RunCharts

/-- What the bandwidth charts need to know. -/
structure BandwidthSettings where
  windows : Log.Bandwidth.Windows := {}
  /-- The upper end of the y axis in the startup phase. -/
  startupTop : Float := 250.0
  /-- The upper end of the y axis in the phase that follows. -/
  afterTop : Float := 220.0

/-- What the cache charts need to know. -/
structure CacheSettings where
  /-- Misses before this time are not counted. -/
  missStart : Int := 30000
  missHeadroom : Float := 30.0
  elementsHeadroom : Float := 10.0

/-- Where charts go and how they are drawn. -/
structure Settings where
  outputDir : Files.Path := "/tmp/sosp"
  width : Nat := 640
  height : Nat := 480
  bandwidth : BandwidthSettings := {}
  cache : CacheSettings := {}

namespace Settings

def pagePath (settings : Settings) (stem : String) : Files.Path :=
  Files.Path.join settings.outputDir (stem ++ ".pdf")

def dataDir (settings : Settings) : Files.Path := Files.Path.join settings.outputDir "plot_data"

def dataPath (settings : Settings) (stem : String) : Files.Path :=
  Files.Path.join settings.dataDir (stem ++ ".json")

end Settings

end RunCharts
