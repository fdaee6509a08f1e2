import Pact.Library.Map
import Pact.Library.Text

namespace Pact.Agent.Shell

open Pact.Library

structure WhitelistEntry where
  command : String
  stateChanging : Bool
  description : String
  deriving DecidableEq

structure WhitelistManager where
  execWhitelist : Map String WhitelistEntry
  learningMode : Bool
  deniedCommands : List String
  deriving DecidableEq

namespace WhitelistManager

def defaults : List WhitelistEntry :=
  [⟨"nvidia-smi", false, "NVIDIA GPU status and diagnostics"⟩,
    ⟨"rocm-smi", false, "AMD GPU status and diagnostics"⟩,
    ⟨"echo", false, "Print arguments"⟩,
    ⟨"dmesg", false, "Kernel ring buffer"⟩,
    ⟨"lspci", false, "PCI device listing"⟩,
    ⟨"lsmod", false, "Loaded kernel modules"⟩,
    ⟨"lsblk", false, "Block device listing"⟩,
    ⟨"lscpu", false, "CPU information"⟩,
    ⟨"uname", false, "System information"⟩,
    ⟨"hostname", false, "Show hostname"⟩,
    ⟨"uptime", false, "System uptime"⟩,
    ⟨"free", false, "Memory usage"⟩,
    ⟨"df", false, "Disk usage"⟩,
    ⟨"mount", true, "Mount operations (can mount filesystems)"⟩,
    ⟨"ps", false, "Process listing"⟩,
    ⟨"top", false, "Process monitor"⟩,
    ⟨"htop", false, "Interactive process monitor"⟩,
    ⟨"ip", true, "Network configuration"⟩,
    ⟨"ss", false, "Socket statistics"⟩,
    ⟨"ping", false, "Network connectivity test"⟩,
    ⟨"traceroute", false, "Network path tracing"⟩,
    ⟨"ethtool", false, "Network interface details"⟩,
    ⟨"cat", false, "Display file contents"⟩,
    ⟨"head", false, "Display first lines"⟩,
    ⟨"tail", false, "Display last lines"⟩,
    ⟨"wc", false, "Word/line count"⟩,
    ⟨"ls", false, "List directory contents"⟩,
    ⟨"stat", false, "File status"⟩,
    ⟨"file", false, "File type identification"⟩,
    ⟨"md5sum", false, "Compute MD5 checksum"⟩,
    ⟨"sha256sum", false, "Compute SHA-256 checksum"⟩,
    ⟨"diff", false, "Compare files"⟩,
    ⟨"grep", false, "Search file contents"⟩,
    ⟨"journalctl", false, "Systemd journal viewer"⟩,
    ⟨"sysctl", true, "Kernel parameter query/set"⟩,
    ⟨"systemctl", true, "Service management"⟩,
    ⟨"modprobe", true, "Load kernel module"⟩,
    ⟨"umount", true, "Unmount filesystem"⟩]

def new (learningMode : Bool) : WhitelistManager where
  execWhitelist := defaults.foldl (fun whitelist entry => whitelist.insert entry.command entry) .empty
  learningMode := learningMode
  deniedCommands := []

def isExecAllowed (manager : WhitelistManager) (command : String) : Bool :=
  (manager.execWhitelist.get command).isSome

def isStateChanging (manager : WhitelistManager) (command : String) : Bool :=
  (manager.execWhitelist.get command).any WhitelistEntry.stateChanging

def recordDenied (manager : WhitelistManager) (command : String) : WhitelistManager :=
  if manager.learningMode ∧ command ∉ manager.deniedCommands then
    { manager with deniedCommands := manager.deniedCommands ++ [command] }
  else manager

-- A command that the policy adds counts as read-only.
def updateExecWhitelist (manager : WhitelistManager) (commands : List String) : WhitelistManager :=
  commands.foldl (fun manager command =>
    if manager.isExecAllowed command then manager
    else { manager with
      execWhitelist := manager.execWhitelist.insert command
        ⟨command, false, "Added from vCluster policy"⟩ }) manager

def blockedPaths : List String :=
  ["/etc/shadow", "/etc/gshadow", "/etc/master.passwd", "/root/", "/.ssh/", "/etc/ssl/private/",
    "/etc/pact/ca/", "/run/pact/ca/"]

def sensitivePrefixes : List String := ["/etc/shadow", "/etc/gshadow", "/root"]

def fileReaders : List String :=
  ["cat", "head", "tail", "grep", "less", "diff", "wc", "file", "md5sum", "sha256sum", "stat"]

-- The components that are left of a path, the last one first.
def resolve : List String → List String → List String
  | components, [] => components
  | components, part :: rest =>
    if part = ".." then resolve components.tail rest
    else if part = "." ∨ part = "" then resolve components rest
    else resolve (part :: components) rest

def normalize (arg : String) : String :=
  "/" ++ join "/" (resolve [] (split arg '/')).reverse

def isPathArgument (arg : String) : Bool := startsWith arg "/" ∨ contains arg ".."

def isBlocked (normalized : String) (blocked : String) : Bool :=
  normalized = blocked ∨ startsWith normalized blocked ∨ contains normalized blocked

def argRejection (command arg : String) : Option String :=
  if isPathArgument arg = false then none
  else if blockedPaths.any (isBlocked (normalize arg)) then
    some ("access denied: " ++ command ++ " cannot access " ++ arg ++ " (sensitive path)")
  else if command ∈ fileReaders ∧ sensitivePrefixes.any (startsWith (normalize arg)) then
    some ("access denied: " ++ command ++ " cannot read " ++ arg ++ " (sensitive path)")
  else none

-- The first argument that is refused decides.
def validateArgs (command : String) : List String → Except String Unit
  | [] => .ok ()
  | arg :: rest =>
    match argRejection command arg with
    | some reason => .error reason
    | none => validateArgs command rest

end WhitelistManager

end Pact.Agent.Shell
