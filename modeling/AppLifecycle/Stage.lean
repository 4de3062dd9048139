/-!
# Stages and orientations

A stage is a place on the screen, an orientation a way the screen is held. An application supports a
set of each; sets are listed in the order in which the members are declared here.
-/

namespace AppLifecycle

/-! ## Stages -/

/-- Where on the screen an application is shown. -/
inductive Stage where
  | main
  | side
deriving DecidableEq, Repr

namespace Stage

def all : List Stage := [.main, .side]

def name : Stage → String
  | .main => "main"
  | .side => "side"

/-- The name in diagnostics. -/
def label : Stage → String
  | .main => "Main"
  | .side => "Side"

/-- The bit of the stage in a set. -/
def bit : Stage → Nat
  | .main => 1
  | .side => 2

end Stage

/-- A set of stages. -/
structure StageSet where
  main : Bool
  side : Bool
deriving DecidableEq, Repr

namespace StageSet

def supports (s : StageSet) : Stage → Bool
  | .main => s.main
  | .side => s.side

def ofList (stages : List Stage) : StageSet :=
  ⟨stages.contains .main, stages.contains .side⟩

def toList (s : StageSet) : List Stage := Stage.all.filter s.supports

/-- The sum of the members' bits. -/
def bits (s : StageSet) : Nat := s.toList.foldl (fun n x => n + x.bit) 0

/-- What an application supports that does not say anything else. -/
def standard : StageSet := ⟨true, false⟩

end StageSet

/-! ## Orientations -/

/-- A way the screen is held. -/
inductive Orientation where
  | portrait
  | landscape
  | invertedPortrait
  | invertedLandscape
deriving DecidableEq, Repr

namespace Orientation

def all : List Orientation := [.portrait, .landscape, .invertedPortrait, .invertedLandscape]

def name : Orientation → String
  | .portrait => "portrait"
  | .landscape => "landscape"
  | .invertedPortrait => "inverted_portrait"
  | .invertedLandscape => "inverted_landscape"

/-- The bit of the orientation in a set. -/
def bit : Orientation → Nat
  | .portrait => 1
  | .landscape => 2
  | .invertedPortrait => 4
  | .invertedLandscape => 8

end Orientation

/-- A set of orientations. -/
structure OrientationSet where
  portrait : Bool
  landscape : Bool
  invertedPortrait : Bool
  invertedLandscape : Bool
deriving DecidableEq, Repr

namespace OrientationSet

def supports (s : OrientationSet) : Orientation → Bool
  | .portrait => s.portrait
  | .landscape => s.landscape
  | .invertedPortrait => s.invertedPortrait
  | .invertedLandscape => s.invertedLandscape

def ofList (orientations : List Orientation) : OrientationSet where
  portrait := orientations.contains .portrait
  landscape := orientations.contains .landscape
  invertedPortrait := orientations.contains .invertedPortrait
  invertedLandscape := orientations.contains .invertedLandscape

def toList (s : OrientationSet) : List Orientation := Orientation.all.filter s.supports

/-- The sum of the members' bits. -/
def bits (s : OrientationSet) : Nat := s.toList.foldl (fun n x => n + x.bit) 0

/-- What an application supports that does not say anything else. -/
def standard : OrientationSet := ⟨true, true, true, true⟩

end OrientationSet

end AppLifecycle
