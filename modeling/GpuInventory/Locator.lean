import GpuInventory.FileTree
import GpuInventory.Log

/-!
Where the tool is that reports on the GPUs.

The configured path wins if it denotes anything; a directory stands for the tool in it, whether or
not the tool is there.  Otherwise the tool is looked for in some directories, and the first in which
its name denotes anything wins.  The answer is the absolute form of the path that was found.
-/

namespace GpuInventory
namespace Locator

def defaultName : String := "nvidia-smi"

/-- The directories that are searched: those of the packages of the distributions and of the
container images. -/
def defaultDirectories : List String := ["/usr/bin", "/bin", "/usr/local/nvidia/bin"]

def settingName : String := "GPU_DISCOVERY_DISCOVERY__PATH_TO_EXECUTABLE"

structure Search where
  directories : List String := defaultDirectories
  name : String := defaultName
deriving DecidableEq, Repr

/-- The paths at which the tool is looked for, in the order of the directories. -/
def Search.candidates (s : Search) : List (List Char) :=
  s.directories.map fun d => Path.join d.toList s.name.toList

/-- The path that is tried first: the configured one, or the bare name if none is configured. -/
def Search.first (s : Search) (configured : String) : List Char :=
  if configured.isEmpty then s.name.toList else configured.toList

/-- The absolute path of the tool, if it was found, and what the log says about it. -/
def locate (place : Place) (search : Search) (configured : String) : Logged (Option String) :=
  let path := search.first configured
  if place.pathExists path then
    if place.isDirectory path then
      let found := String.ofList (place.absolute (Path.join path search.name.toList))
      .saying .locator .warning
        ("Specified path is a directory, using " ++ search.name ++ " under it: " ++ found)
        (some found)
    else .silent (some (String.ofList (place.absolute path)))
  else match search.candidates.find? place.pathExists with
    | some candidate =>
      let found := String.ofList (place.absolute candidate)
      .saying .locator .info ("Using " ++ search.name ++ " found at " ++ found) (some found)
    | none =>
      .saying .locator .warning
        ("Failed to locate binary at " ++ String.ofList (place.absolute path) ++
          ", please double check [" ++ settingName ++ "] setting. Searched " ++
          Text.listed search.directories ++ " for " ++ search.name ++ " without success")
        none

end Locator
end GpuInventory
