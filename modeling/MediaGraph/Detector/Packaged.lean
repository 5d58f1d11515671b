import MediaGraph.Detector.Basic

namespace MediaGraph.Detector

/-!
# The packaged detectors

The classes of detectors that are known without any configuration.
-/

/-- The class from which all detectors derive. -/
def baseClass : ClassRef := ⟨"mediaconf.detect.base", "Detector", []⟩

/-- Recognizes documents without bytes. -/
def zeroSizeClass : ClassRef := baseClass.under "mediaconf.detect.builtins" "ZeroSizeFileDetector"

/-- Believes the declared type. -/
def typeClass : ClassRef := baseClass.under "mediaconf.detect.builtins" "TypeDetector"

/-- Recognizes text. -/
def textClass : ClassRef := baseClass.under "mediaconf.detect.builtins" "TextDetector"

/-- Keeps the most specific answer of its children. -/
def compositeClass : ClassRef := baseClass.under "mediaconf.detect.composite" "CompositeDetector"

/-- Holds a repository and what is discovered. -/
def defaultClass : ClassRef := compositeClass.under "mediaconf.detect.default" "DefaultDetector"

/-- Goes by the rules of a repository. -/
def repositoryClass : ClassRef := baseClass.under "mediaconf.mime.repository" "MimeRepository"

/-- The number of bytes that are looked at to recognize text. -/
def textWindow : Int := 512

end MediaGraph.Detector
