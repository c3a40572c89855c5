import ScreenedSuite.Rule.Basic

/-! # Dangerous commands

Shell commands that must not reach a script unreviewed, in three tiers.
-/

namespace ScreenedSuite.Rule

/-- Unambiguous, catastrophic commands. -/
def catastrophicCommands : List Rule := [
  { id := "rm-root"
    tier := .permissive
    pattern := r"\brm\s+(-{1,2}[a-z-]*\s+)*/\*?(\s|$|[;&|])"
    reason := "Deleting the root filesystem" },
  { id := "rm-home"
    tier := .permissive
    pattern := r"\brm\s+(-{1,2}[a-z-]*\s+)*(~|\$HOME|\$\{HOME\})/?(\s|$|[;&|])"
    reason := "Deleting the home directory" },
  { id := "rm-system-dirs"
    tier := .permissive
    pattern := r"\brm\s+(-{1,2}[a-z-]*\s+)*/(etc|usr|var|bin|sbin|lib|lib64|boot|opt|root)\b"
    reason := "Deleting system directories" },
  { id := "dd-disk-device"
    tier := .permissive
    pattern := r"\bdd\b.*\bof=/dev/(sd|nvme|hd|vd|xvd|mmcblk)[a-z0-9]"
    reason := "Writing directly to a disk device" },
  { id := "mkfs-device"
    tier := .permissive
    pattern := r"\bmkfs(\.\w+)?\s+.*/dev/"
    reason := "Formatting a disk device" },
  { id := "redirect-disk-device"
    tier := .permissive
    pattern := r">\s*/dev/(sd|nvme|hd|vd|xvd)[a-z]"
    reason := "Overwriting a disk device" },
  { id := "fork-bomb"
    tier := .permissive
    pattern := r":\(\)\s*\{.*:\s*\|\s*:.*&"
    reason := "Fork bomb" },
  { id := "download-pipe-shell"
    tier := .permissive
    pattern := r"\b(curl|wget)\b.*\|\s*(sudo\s+)?(ba|z|k|da)?sh\b"
    reason := "Piping downloaded content to a shell" },
  { id := "download-pipe-interpreter"
    tier := .permissive
    pattern := r"\b(curl|wget)\b.*\|\s*(sudo\s+)?(python[23]?|perl|ruby|node|php)\b"
    reason := "Piping downloaded content to an interpreter" },
  { id := "reverse-shell-dev-tcp"
    tier := .permissive
    pattern := r"/dev/(tcp|udp)/"
    reason := "Reverse shell via /dev/tcp" },
  { id := "reverse-shell-nc"
    tier := .permissive
    pattern := r"\b(nc|ncat|netcat)\b.*\s-e\s"
    reason := "Netcat executing a program" } ]

/-- Destructive or privileged commands. -/
def destructiveCommands : List Rule := [
  { id := "rm-recursive-force"
    tier := .standard
    pattern := r"\brm\s+(.*\s)?(-[a-z]*r[a-z]*f[a-z]*|-[a-z]*f[a-z]*r[a-z]*|--recursive|--force)\b"
    reason := "Recursive or forced delete" },
  { id := "privilege-escalation"
    tier := .standard
    pattern := r"\b(sudo|doas|pkexec)\b"
    reason := "Privilege escalation" },
  { id := "su-root"
    tier := .standard
    pattern := r"\bsu(\s+-)?(\s+root)?(\s|$)"
    reason := "Switching to another user" },
  { id := "disk-tools"
    tier := .standard
    pattern := r"\b(mkfs(\.\w+)?|fdisk|sfdisk|parted|wipefs|shred)\b"
    reason := "Disk formatting or wiping utility" },
  { id := "dd-raw"
    tier := .standard
    pattern := r"\bdd\s+.*\b(if|of)="
    reason := "Raw block copy with dd" },
  { id := "chmod-world-writable"
    tier := .standard
    pattern := r"\bchmod\b.*\b(777|666|a\+w|o\+w)\b"
    reason := "Setting world-writable permissions" },
  { id := "power-control"
    tier := .standard
    pattern := r"\b(shutdown|reboot|halt|poweroff|init\s+[06])\b"
    reason := "Shutting down or rebooting the host" },
  { id := "kill-all-processes"
    tier := .standard
    pattern := r"\bkill\s+-9\s+-1\b"
    reason := "Killing every process" },
  { id := "crontab-remove"
    tier := .standard
    pattern := r"\bcrontab\s+-r\b"
    reason := "Removing all cron jobs" },
  { id := "decode-pipe-shell"
    tier := .standard
    pattern := r"\bbase64\s+(-d|--decode)\b.*\|\s*(ba|z)?sh\b"
    reason := "Executing decoded payload" },
  { id := "eval"
    tier := .standard
    pattern := r"\beval\s"
    reason := "Evaluating dynamic shell code" } ]

/-- Shell metacharacters and anything remotely risky. -/
def riskyCommands : List Rule := [
  { id := "shell-chaining"
    tier := .strict
    pattern := r"[;&|]"
    reason := "Shell command chaining or piping" },
  { id := "command-substitution"
    tier := .strict
    pattern := r"`|\$\("
    reason := "Command substitution" },
  { id := "shell-redirection"
    tier := .strict
    pattern := r"[<>]"
    reason := "Shell redirection" },
  { id := "rm-any"
    tier := .strict
    pattern := r"\b(rm|rmdir|unlink)\s"
    reason := "Deleting files" },
  { id := "permission-change"
    tier := .strict
    pattern := r"\b(chmod|chown|chgrp|setfacl)\b"
    reason := "Changing file permissions or ownership" },
  { id := "network-tools"
    tier := .strict
    pattern := r"\b(curl|wget|nc|ncat|netcat|telnet|ssh|scp|rsync|ftp)\b"
    reason := "Network transfer or remote shell" },
  { id := "inline-interpreter"
    tier := .strict
    pattern := r"\b(python[23]?|perl|ruby|node|php|bash|sh|zsh)\s+-[ce]\b"
    reason := "Inline interpreter code" },
  { id := "process-kill"
    tier := .strict
    pattern := r"\b(kill|killall|pkill)\b"
    reason := "Killing processes" } ]

/-- All command rules, in order of priority. -/
def dangerousCommands : List Rule :=
  catastrophicCommands ++ destructiveCommands ++ riskyCommands

end ScreenedSuite.Rule
