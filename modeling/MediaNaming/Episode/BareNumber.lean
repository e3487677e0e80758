import MediaNaming.Episode.Evidence

/-
Episode numbers without a mark, for names whose scan finds no episode: first a short number in
the first sector, then the only bare number outside the evidence. A bare number of three digits
leads with its season.
-/
namespace MediaNaming

def digitRuns (t : Text) : List Text :=
  (t.pieces fun c => !isDecimal c).filter fun run => run != []

def leadingNumber? : List Text → Option Nat
  | [] => none
  | sector :: _ =>
    ((digitRuns sector).find? fun run => run.byteSize ≤ 2).bind (Text.readNumber? wordLimit)

def isBareNumber (sector : Text) : Bool :=
  sector != [] && decide (sector.length ≤ 3) && sector.all isDecimal

def isOutside (block : Option (Nat × Nat)) (index : Nat) : Bool :=
  block.all fun (start, stop) => index < start || stop < index

def bareNumbers (sectors : List Text) (block : Option (Nat × Nat)) : List (Text × Nat) :=
  sectors.zipIdx.filter fun (sector, index) => isOutside block index && isBareNumber sector

/-- Season and episode of a bare number. Its last two bytes are the episode. -/
def readBareNumber (number : Text) : Except NamingError (Option Nat × Option Nat) :=
  let size := number.byteSize
  if size < 3 then .ok (none, number.readNumber? wordLimit)
  else
    match number.takeBytes? (size - 2), number.dropBytes? (size - 2) with
    | some season, some episode => .ok (season.readNumber? wordLimit, episode.readNumber? wordLimit)
    | _, _ => .error (.brokenCut number 0 (size - 2))

namespace Evidence

def addLeadingNumber (sectors : List Text) (e : Evidence) : Evidence :=
  match leadingNumber? sectors with
  | some episode => { e.addEpisodes [episode] with block := some (0, 0) }
  | none => e

def addBareNumber (input : Text) (sectors : List Text) (e : Evidence) :
    Except NamingError Evidence :=
  match bareNumbers sectors e.block with
  | [(number, index)] => do
    match ← readBareNumber number with
    | (_, none) => .ok e
    | (none, some episode) => .ok ((e.addEpisodes [episode]).cover index)
    | (some season, some episode) => do
      let e ← e.assertSeason input season
      .ok ((e.addEpisodes [episode]).cover index)
  | _ => .ok e

def complete (input : Text) (sectors : List Text) (e : Evidence) : Except NamingError Evidence :=
  if e.episodes ≠ [] then .ok e
  else
    let e := e.addLeadingNumber sectors
    if e.episodes ≠ [] then .ok e else e.addBareNumber input sectors

end Evidence
end MediaNaming
