import FeedDesk.Disk.Basic
import FeedDesk.Oracle.Consultation
import FeedDesk.Question.Normalization
import FeedDesk.Settings.Basic

namespace FeedDesk
namespace CommandLine

/-!
The machine on which a command line is carried out: its files, the catalogs among them, its
environment, its clock, and the services that can be reached from it. A disk in memory makes a
machine too.
-/

structure Machine (m : Type → Type) where
  isFile : Text → m Bool
  readText : Text → m (Option Text)
  makeDirectories : Text → m Bool
  openCatalog : Text → m (Except OpenFault Catalog)
  saveCatalog : Text → Catalog → m Unit
  time : m Text
  environment : Environment
  translator : (url : Text) → TranslatorSettings → Translator
  oracle : (model : Text) → OracleSettings → Oracle

/-- A translator that never answers. -/
def silentTranslator : Translator where
  answer _ _ := .error ⟨"translator request failed", []⟩

/-- An oracle that never answers. -/
def silentOracle : Oracle where
  answer _ _ := .failed ⟨"request failed", []⟩

/-- A machine without services whose disk is in memory. -/
def Machine.inMemory (environment : Environment) (time : Text) : Machine (StateM Disk) where
  isFile path := do return (← get).isFile path
  readText path := do return (← get).readText path
  makeDirectories path := modifyGet fun disk => disk.makeDirectories path
  openCatalog path := modifyGet fun disk => disk.openCatalog path
  saveCatalog path catalog := modify fun disk => disk.saveCatalog path catalog
  time := return time
  environment
  translator _ _ := silentTranslator
  oracle _ _ := silentOracle

end CommandLine
end FeedDesk
