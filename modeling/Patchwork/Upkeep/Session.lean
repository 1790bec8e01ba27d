import Patchwork.Text.Written
import Patchwork.Upkeep.Tree

/-! # Maintenance sessions

A session is a named list of commands for looking after a project. Which commands it
issues depends on the interpreter version it runs under, on the host, and on whether
dependencies have been pinned for the two. A plan is the list of commands as data; it is
carried out up to the first command that fails.
-/
namespace Patchwork.Upkeep

structure Host where
  platform : String := "linux"
  machine : String := "x86_64"

inductive Verb
  | install
  | run
  | notify
deriving DecidableEq

structure Call where
  verb : Verb
  arguments : List String
deriving DecidableEq

inductive Session
  | lock
  | lint
  | format
  | sort
  | typing
  | test
  | ci
deriving DecidableEq

inductive Versions
  | one (version : String)
  | several (versions : List String)

structure Notice where
  name : String
  versions : Versions
  backend : Option String := none
  tags : List String
  doc : String

def versions : List String := ["3.12", "3.13"]

def newestVersion : String := "3.13"

def coverageFloor : Nat := 90

def defaultBackend : String := "uv"

def reusesEnvironments : Bool := true

namespace Session

def all : List Session := [lock, lint, format, sort, typing, test, ci]

def notice : Session → Notice
  | lock => ⟨"lock", .several versions, some "uv", [], "Lock dependencies."⟩
  | lint => ⟨"lint", .one newestVersion, none, ["lint"], "Run linting with Ruff."⟩
  | format => ⟨"format_code", .one newestVersion, none, ["format"], "Format code with Ruff."⟩
  | sort => ⟨"sort", .one newestVersion, none, ["sort"], "Sort imports with Ruff."⟩
  | typing => ⟨"typing", .one newestVersion, none, ["typing"], "Run type checking with Pyright."⟩
  | test => ⟨"test", .several versions, none, ["test"],
      "Run the unit and integration suites with a coverage floor."⟩
  | ci => ⟨"ci", .one newestVersion, none, ["ci"], "Run all CI checks."⟩

def ofName? (name : String) : Option Session := all.find? fun session => session.notice.name == name

theorem ofName?_name (session : Session) : ofName? session.notice.name = some session := by
  cases session <;> decide

end Session

def constraints (host : Host) (version : Option String) : Path :=
  "constraints" ::
    (Path.ofText s!"python{writeOptional id version}-{host.platform}-{host.machine}.txt").plain

/-- Packages are installed under the pinned versions once these are there. -/
def installCall (host : Host) (version : Option String) (tree : Tree) (packages : List String) :
    Except PathFault Call := do
  let pinned := constraints host version
  let found ← tree.has pinned
  .ok ⟨.install, if found then "-c" :: pinned.text :: packages else packages⟩

def Session.plan (host : Host) (version : Option String) (tree : Tree) :
    Session → Except PathFault (Tree × List Call)
  | lock => do
    let pinned := constraints host version
    let tree ← tree.makeFolder pinned.parent
    .ok (tree, [⟨.run, ["uv", "pip", "compile", "pyproject.toml", "--upgrade", "--quiet",
      "--all-extras", "--output-file=" ++ pinned.text]⟩])
  | lint => do
    let install ← installCall host version tree ["ruff"]
    .ok (tree, [install, ⟨.run, ["ruff", "check", "src", "tests", "noxfile.py"]⟩])
  | format => do
    let install ← installCall host version tree ["ruff"]
    .ok (tree, [install, ⟨.run, ["ruff", "format", "src", "tests", "noxfile.py"]⟩])
  | sort => do
    let install ← installCall host version tree ["ruff"]
    .ok (tree, [install, ⟨.run, ["ruff", "check", "--select", "I", "--fix", "src", "tests"]⟩])
  | typing => do
    let install ← installCall host version tree ["-e", ".[dev]"]
    .ok (tree, [install, ⟨.run, ["pyright"]⟩])
  | test => do
    let install ← installCall host version tree ["-e", ".[dev]"]
    .ok (tree, [install, ⟨.run, ["pytest", "--cov=splice_buffer", "--cov-report=term-missing",
      s!"--cov-fail-under={coverageFloor}"]⟩])
  | ci => .ok (tree, [⟨.notify, ["lint"]⟩, ⟨.notify, ["sort"]⟩, ⟨.notify, ["typing"]⟩,
      ⟨.notify, ["test"]⟩])

/-- The calls that are made when the call at a position is to fail, and the position of the
call that did fail. -/
def carryOut (failAt : Option Int) (calls : List Call) : List Call × Option Nat :=
  match failAt with
  | none => (calls, none)
  | some position =>
    if 0 ≤ position ∧ position < calls.length then
      (calls.take (position.toNat + 1), some position.toNat)
    else (calls, none)

end Patchwork.Upkeep
