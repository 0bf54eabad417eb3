import Parley.Draft
import Parley.Files
import Parley.Integrity.JsonForm
import Parley.Ron.Decode

/-!
# Settings of the compiler

Settings are kept in a file of their own, and whoever asks for a compiler may override them one by one.
-/

namespace Parley

open Integrity (OrphanPolicy Rules)

/-- How scripts are built and trees are checked. -/
structure Settings where
  /-- Identifiers of the library's own have at least so many places. -/
  idWidth : Nat := defaultIdWidth
  orphanPolicy : OrphanPolicy := .error
  /-- Dialogues that conversations may start at without a scene. -/
  sharedDialogues : KeySet := Table.empty
  deriving DecidableEq, Inhabited

namespace Settings

/-- Read the name of a policy. -/
def policyOfRon : Ron.Decoder OrphanPolicy := fun _ value =>
  match value with
  | .bare name => OrphanPolicy.ofName? name
  | _ => none

open Ron.Decoder in
/-- Read settings, each of which may be left out. -/
def ofRon : Ron.Decoder Settings :=
  record "CompilerConfig" [
    .of "id_width" natural fun idWidth settings => { settings with idWidth },
    .of "orphan_policy" policyOfRon fun orphanPolicy settings => { settings with orphanPolicy },
    .of "shared_dialogues" (list text) fun shared settings =>
      { settings with sharedDialogues := KeySet.ofList shared }] {}

/-- The settings that a text holds. -/
def parse? (text : String) : Option Settings := Ron.decode? false ofRon text

/-- The rules of the check. -/
def rules (settings : Settings) : Rules := ⟨settings.orphanPolicy, settings.sharedDialogues⟩

end Settings

/-- Settings that go before all others. -/
structure Overrides where
  idWidth : Option Nat := none
  orphanPolicy : Option OrphanPolicy := none
  /-- Dialogues that are shared besides those of the settings. -/
  sharedDialogues : List String := []
  deriving Inhabited

/-- The settings with some of them overridden. -/
def Settings.override (settings : Settings) (overrides : Overrides) : Settings where
  idWidth := overrides.idWidth.getD settings.idWidth
  orphanPolicy := overrides.orphanPolicy.getD settings.orphanPolicy
  sharedDialogues := overrides.sharedDialogues.foldl (fun set id => set.insert id ()) settings.sharedDialogues

end Parley
