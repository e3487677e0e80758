import MediaNaming.Text.Basic

/- Video quality, as a resolution tag in a file name tells it. -/
namespace MediaNaming

inductive Quality where
  | sd480
  | sd576
  | hd720
  | hd1080
  | uhd2160
deriving DecidableEq, Repr

namespace Quality

def all : List Quality := [sd480, sd576, hd720, hd1080, uhd2160]

def lines : Quality → Nat
  | sd480 => 480
  | sd576 => 576
  | hd720 => 720
  | hd1080 => 1080
  | uhd2160 => 2160

instance : LT Quality := ⟨fun a b => a.lines < b.lines⟩

instance (a b : Quality) : Decidable (a < b) := inferInstanceAs (Decidable (a.lines < b.lines))

/-- The tags of each quality, in lowercase; the first one is how the quality is shown. -/
def tags : Quality → List Text
  | sd480 => ["480p".toList, "480i".toList]
  | sd576 => ["576p".toList, "576i".toList]
  | hd720 => ["720p".toList]
  | hd1080 => ["1080p".toList, "1080i".toList]
  | uhd2160 => ["2160p".toList, "4k".toList, "uhd".toList]

def ofTag? (tag : Text) : Option Quality := all.find? fun q => q.tags.contains tag

def label (q : Quality) : Text := q.tags.headD []

def name : Quality → Text
  | sd480 => "Sd480".toList
  | sd576 => "Sd576".toList
  | hd720 => "Hd720".toList
  | hd1080 => "Hd1080".toList
  | uhd2160 => "Uhd2160".toList

def ofName? (name : Text) : Option Quality := all.find? fun q => q.name == name

end Quality
end MediaNaming
