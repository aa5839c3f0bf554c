import SearchQuery.Decimal.Notation
import SearchQuery.Text.Quoted

/-!
# Vicinities

The points nearer to an anchor than a distance, for documents that keep latitude and longitude in
two fields.
-/

namespace SearchQuery

structure Vicinity where
  latitudeField : String
  longitudeField : String
  latitude : Float
  longitude : Float
  /-- The distance in metres. -/
  distance : Float
  deriving DecidableEq

namespace Vicinity

def source (v : Vicinity) : String :=
  v.latitudeField ++ "," ++ v.longitudeField

def shown (v : Vicinity) : String :=
  "GeoSpec \x7b lat_field: " ++ Text.quoted v.latitudeField
    ++ ", lon_field: " ++ Text.quoted v.longitudeField
    ++ ", lat: " ++ Decimal.shown.text v.latitude
    ++ ", lon: " ++ Decimal.shown.text v.longitude
    ++ ", distance_meters: " ++ Decimal.shown.text v.distance ++ " \x7d"

end Vicinity

end SearchQuery
