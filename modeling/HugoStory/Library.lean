/-! The property numbers that the standard library gives a fixed meaning to. -/
namespace HugoStory.Library

def name : Nat := 0
def noun : Nat := 3
def adjective : Nat := 4
def article : Nat := 5
def preposition : Nat := 6
def pronoun : Nat := 7
def foundIn : Nat := 13
def type : Nat := 14
def parseRank : Nat := 21
def excludeFromAll : Nat := 22
def doorTo : Nat := 23

/-- The first of twelve properties that rooms use for their exits and other objects for
purposes of their own. -/
def northTo : Nat := 24

def cantGo : Nat := 36

def roomType : Int := 4

end HugoStory.Library
