/-!
# Decibels

An SNR is a ratio of two powers; reports show it in decibels.
-/
namespace LinkAdaptation
namespace Decibel

def ofRatio (ratio : Float) : Float :=
  10.0 * ratio.log10

def toRatio (decibels : Float) : Float :=
  Float.pow 10.0 (decibels / 10.0)

end Decibel
end LinkAdaptation
