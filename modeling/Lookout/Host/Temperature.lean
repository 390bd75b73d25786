import Lookout.Text.Search

/-!
# Which sensor tells the temperature

A host has many sensors, told apart by their labels. `selectTemperature` takes the first plausible
reading of the sensor that is most likely to be the processor's.
-/

namespace Lookout

/-- A sensor's label and its reading in degrees Celsius. -/
structure Reading where
  label : String
  celsius : Float32

/-- The highest temperature that is believed, in degrees Celsius. -/
def maxCelsius : Float32 := 150

/-- Readings at or below zero or above 150 degrees are mistakes of the sensor, and so is one that is
no number. -/
def Reading.isPlausible (r : Reading) : Bool :=
  !(r.celsius.isNaN || r.celsius ≤ 0 || r.celsius > maxCelsius)

/-- A character in lower case, as far as that matters for finding ASCII words: besides the capitals
of ASCII only the Kelvin sign and the dotted capital I have an ASCII letter in their lower case. -/
def foldCase (c : Char) : List Char :=
  if c = '\u212A' then ['k']
  else if c = '\u0130' then ['i', '\u0307']
  else [c.toLower]

/-- Whether one of the words stands in a text. -/
def mentions (text : List Char) (words : List String) : Bool :=
  words.any fun word => Text.occursIn word.toList text

/-- How likely a sensor is the processor's. -/
def sensorPriority (label : String) : Nat :=
  let folded := label.toList.flatMap foldCase
  -- From the sensor of the whole processor down to sensors of anything.
  if mentions folded ["package"] then 5
  else if mentions folded ["tdie"] then 4
  else if mentions folded ["tctl", "cpu_thermal", "cpu-thermal"] then 3
  else if mentions folded ["cpu", "core"] then 2
  else 1

/-- The better of what was chosen so far and another reading: implausible readings never count, and
a later one only if its priority is higher. -/
def betterReading (best : Option Reading) (r : Reading) : Option Reading :=
  -- Only what is plausible is compared, so that an implausible reading of a good sensor keeps none
  -- away.
  if r.isPlausible then
    match best with
    | none => some r
    | some b => if sensorPriority b.label < sensorPriority r.label then some r else some b
  else best

/-- The temperature of the most likely sensor, the first one of equally likely ones. -/
def selectTemperature (readings : List Reading) : Option Float :=
  (readings.foldl betterReading none).map (·.celsius.toFloat)

end Lookout
