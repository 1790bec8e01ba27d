import Patchwork.Upkeep.Session

/-! # Keeping a project over time

Steps that arrange a host and a file tree, and steps that carry out sessions in them. Each
step reports its result, the calls it made and the files that are there afterwards.
-/
namespace Patchwork.Upkeep

structure Site where
  host : Host := {}
  tree : Tree := {}

inductive Step
  | host (platform machine : String)
  | touch (path : String)
  | makeFolders (path : String)
  | remove (path : String)
  | constraints (version : Option String)
  | install (packages : List String) (version : Option String) (failAt : Option Int)
  | session (session : Session) (version : Option String) (failAt : Option Int)

inductive Fault
  | path (fault : PathFault)
  | command (position : Nat)

def Fault.label : Fault → String
  | path fault => fault.label
  | command _ => "CommandFailed"

def Fault.message : Fault → String
  | path fault => fault.message
  | command position => s!"command {position} failed"

structure Report where
  result : Except Fault (Option String)
  calls : List Call
  listing : List String

namespace Site

def report (site : Site) (result : Except Fault (Option String)) (calls : List Call) :
    Report × Site :=
  ({ result, calls, listing := site.tree.listing }, site)

def arrange (site : Site) (progress : Progress) : Report × Site :=
  match progress with
  | ⟨tree, none⟩ => { site with tree }.report (.ok none) []
  | ⟨tree, some fault⟩ => { site with tree }.report (.error (.path fault)) []

def carry (site : Site) (failAt : Option Int) (calls : List Call) : Report × Site :=
  match carryOut failAt calls with
  | (made, some position) => site.report (.error (.command position)) made
  | (made, none) => site.report (.ok none) made

def perform (site : Site) : Step → Report × Site
  | .host platform machine => { site with host := ⟨platform, machine⟩ }.report (.ok none) []
  | .touch path => site.arrange (site.tree.touch (Path.ofText path))
  | .makeFolders path => site.arrange (site.tree.makeFolders (Path.ofText path))
  | .remove path => site.arrange (.change site.tree (site.tree.removeFile (Path.ofText path)))
  | .constraints version =>
    site.report (.ok (some (Upkeep.constraints site.host version).text)) []
  | .install packages version failAt =>
    match installCall site.host version site.tree packages with
    | .error fault => site.report (.error (.path fault)) []
    | .ok call => site.carry failAt [call]
  | .session session version failAt =>
    match session.plan site.host version site.tree with
    | .error fault => site.report (.error (.path fault)) []
    | .ok (tree, calls) => { site with tree }.carry failAt calls

def run : Site → List Step → List Report
  | _, [] => []
  | site, step :: steps =>
    let (report, later) := site.perform step
    report :: later.run steps

end Site

end Patchwork.Upkeep
