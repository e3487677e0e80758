import MediaNaming.Lookup.Resolution
import MediaNaming.Naming.Renamer

/- A renamer that completes missing titles before it writes a name. -/
namespace MediaNaming

variable {σ : Type}

structure Completer (σ : Type) where
  renamer : Renamer
  lookup : Lookup σ

namespace Completer

/-- The configuration of the renamer decides both switches of the lookup. -/
def attach (renamer : Renamer) (lookup : Lookup σ) : Completer σ :=
  ⟨renamer, { lookup with
    enabled := renamer.config.lookupEnabled
    alwaysConfirm := renamer.config.alwaysConfirm }⟩

def afterLookup (c : Completer σ) (write : Renamer → TitledEpisode → Except NamingError Text)
    (e : TitledEpisode) (s : LookupState σ) :
    Except NamingError Text × TitledEpisode × LookupState σ :=
  let (_, e, s) := c.lookup.lookupTitle e s
  (write c.renamer e, e, s)

def renderEpisode (c : Completer σ) (e : TitledEpisode) (s : LookupState σ) :
    Except NamingError Text × TitledEpisode × LookupState σ :=
  c.afterLookup Renamer.renderEpisode e s

def episodeTarget (c : Completer σ) (e : TitledEpisode) (s : LookupState σ) :
    Except NamingError Text × TitledEpisode × LookupState σ :=
  c.afterLookup Renamer.episodeTarget e s

end Completer
end MediaNaming
