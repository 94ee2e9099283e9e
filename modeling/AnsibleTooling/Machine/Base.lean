import AnsibleTooling.Files.Operations
import AnsibleTooling.Shell.Utility

set_option autoImplicit false

namespace AnsibleTooling.Machine

def programDirectory : Files.Location :=
  [Text.encode "usr", Text.encode "bin"]

def programNames : List String :=
  ["dash", "bash", "env"] ++ Shell.Utility.names

def program (name : String) : Files.Location × Files.Entry :=
  (programDirectory ++ [Text.encode name], .command name)

def linkTo (path target : String) : Files.Location × Files.Entry :=
  ((Path.ofText path).names, .link (Path.ofText target))

def directoryAt (path : String) : Files.Location × Files.Entry :=
  ((Path.ofText path).names, .directory)

def deviceAt (path : String) (device : Files.Device) : Files.Location × Files.Entry :=
  ((Path.ofText path).names, .device device)

def directories : List String := [
  "/boot", "/dev", "/etc", "/home", "/media", "/mnt", "/opt", "/proc", "/proc/self",
  "/proc/self/fd", "/root", "/run", "/srv", "/sys", "/tmp", "/usr", "/usr/bin", "/usr/lib", "/usr/local", "/usr/local/bin",
  "/usr/local/lib", "/usr/local/sbin", "/usr/local/share", "/usr/sbin", "/usr/share", "/var",
  "/var/lib", "/var/log", "/var/tmp"]

def accounts : String := "root:x:0:0:root:/root:/bin/bash\n"

def birth : Nat := 1750000000000

def baseTree : Files.Tree :=
  let entries :=
    directories.map directoryAt ++
    [linkTo "/bin" "usr/bin",
      linkTo "/sbin" "usr/sbin",
      linkTo "/lib" "usr/lib",
      linkTo "/usr/bin/sh" "dash",
      linkTo "/dev/fd" "/proc/self/fd",
      linkTo "/dev/stdin" "/proc/self/fd/0",
      linkTo "/dev/stdout" "/proc/self/fd/1",
      linkTo "/dev/stderr" "/proc/self/fd/2",
      deviceAt "/dev/null" .null,
      deviceAt "/dev/zero" .zero,
      deviceAt "/dev/full" .full,
      deviceAt "/dev/random" .random,
      deviceAt "/dev/urandom" .random,
      deviceAt "/dev/tty" .terminal,
      ((Path.ofText "/etc/passwd").names, .file (Text.encode accounts))] ++
    programNames.map program
  entries.foldl (fun tree (location, entry) => tree.insert location entry)
    { Files.Tree.empty with now := birth, mask := 0o022 }

end AnsibleTooling.Machine
