import MediaNaming.Address.Absolute
import MediaNaming.Address.Request
import MediaNaming.Json.Reader
import MediaNaming.Json.Record
import MediaNaming.Lookup.Ranking
import MediaNaming.Lookup.Similarity

/-
The metadata service over requests for JSON documents. What is not found has no answer, any
other status than success is an error, and search hits are ranked by similarity.
-/
namespace MediaNaming

variable {σ : Type}

inductive Response where
  | unreachable (detail : Text)
  | answered (status : Nat) (body : Text)

abbrev Fetch (σ : Type) := Text → σ → Response × σ

def defaultBase : Text := "https://api.tvmaze.com".toList

structure Client (σ : Type) where
  base : Text
  fetch : Fetch σ

def Hit.ofJson? (json : Json) : Option Hit := do
  let hit ← json.record? ["show".toList]
  Json.field? hit "show".toList fun series => do
    let fields ← series.record? ["id".toList, "name".toList, "premiered".toList]
    return {
      id := ← Json.field? fields "id".toList (Json.natUpTo? longLimit)
      name := ← Json.field? fields "name".toList Json.text?
      premiered := ← Json.optionalField? fields "premiered".toList Json.text? }

def titleOfJson? (json : Json) : Option (Option Text) := do
  let fields ← json.record? ["name".toList]
  Json.optionalField? fields "name".toList Json.text?

namespace Client

def ofBase (base : Text) (fetch : Fetch σ) : Client σ := ⟨trimmedBase base, fetch⟩

/-- The document at an address, or nothing where there is none. -/
def get {α : Type} (client : Client σ) (address : Text) (read : Json → Option α) (outside : σ) :
    Except LookupError (Option α) × σ :=
  match addressFault? address with
  | some fault => (.error (.transport ("bad URL: ".toList ++ fault.message)), outside)
  | none =>
    match client.fetch address outside with
    | (.unreachable detail, outside) => (.error (.transport detail), outside)
    | (.answered status body, outside) =>
      if status = 404 then (.ok none, outside)
      else if status < 200 ∨ 300 ≤ status then (.error (.status status), outside)
      else
        match (Json.read? body).bind read with
        | some document => (.ok (some document), outside)
        | none => (.error (.decode "unexpected document".toList), outside)

def search (client : Client σ) (series : Text) (outside : σ) :
    Except LookupError (List Candidate) × σ :=
  let (hits, outside) :=
    client.get (searchAddress client.base series) (Json.list? Hit.ofJson?) outside
  (hits.map fun hits => rankCandidates Similarity.rank series (hits.getD []), outside)

def episodeTitle (client : Client σ) (id season number : Nat) (outside : σ) :
    Except LookupError (Option Text) × σ :=
  let (title, outside) :=
    client.get (episodeAddress client.base id season number) titleOfJson? outside
  (title.map Option.join, outside)

def service (client : Client σ) : Service σ := ⟨client.search, client.episodeTitle⟩

end Client
end MediaNaming
