import AnsibleTooling.Machine.Program

set_option autoImplicit false

namespace AnsibleTooling.Machine

def advanceEach (time : Nat) (tree : Files.Tree) : List Run -> Files.Tree × List Run
  | [] => (tree, [])
  | run :: runs =>
    let run := (run.withTree tree).advance time
    let (tree, runs) := advanceEach time run.tree runs
    (tree, run :: runs)

def elapse (time : Nat) (tree : Files.Tree) (runs : List Run) : Files.Tree × List Run :=
  match (runs.filterMap Run.rest?).min? with
  | none => (tree, runs)
  | some rest =>
    if time < max rest 1 then advanceEach time tree runs
    else
      let (tree, runs) := advanceEach (max rest 1) tree runs
      elapse (time - max rest 1) tree runs
termination_by time

def outlast (thread : Shell.Thread Shell.Scene) (now : Nat) (others : List Run) :
    Run × List Run :=
  match thread with
  | .ended scene => ({ thread := .ended scene, now }, others)
  | .paused ready wake? scene resume =>
    if isOver scene then ({ thread := .paused ready wake? scene resume, now }, others)
    else if ready scene then outlast (resume now scene) now others
    else
      match wake? with
      | none => ({ thread := .paused ready wake? scene resume, now }, others)
      | some wake =>
        let (tree, others) := elapse (wake - now) scene.tree others
        outlast (resume (max now wake) (withTree tree scene)) (max now wake) others

end AnsibleTooling.Machine
