import ScreenedSuite.Rule.Basic

/-! # Sensitive paths

Files and directories that hold credentials, keys or system configuration, in three tiers.
-/

namespace ScreenedSuite.Rule

/-- Credential stores and private keys. -/
def credentialPaths : List Rule := [
  { id := "shadow"
    tier := .permissive
    pattern := r"/etc/(g?shadow|sudoers)\b"
    reason := "System password hashes or sudo policy" },
  { id := "ssh-private-key"
    tier := .permissive
    pattern := r"\.ssh/id_(rsa|ed25519|ecdsa|dsa)$"
    reason := "SSH private key file" },
  { id := "aws-credentials"
    tier := .permissive
    pattern := r"\.aws/credentials$"
    reason := "AWS credentials file" },
  { id := "kube-config"
    tier := .permissive
    pattern := r"\.kube/config$"
    reason := "Kubernetes config with credentials" },
  { id := "docker-config"
    tier := .permissive
    pattern := r"\.docker/config\.json$"
    reason := "Docker registry credentials" },
  { id := "gnupg-keyring"
    tier := .permissive
    pattern := r"\.gnupg/(secring|private-keys)"
    reason := "GPG private keyring" } ]

/-- Secret files and key containers. -/
def secretPaths : List Rule := [
  { id := "env-file"
    tier := .standard
    pattern := r"(^|/)\.env$"
    reason := "Environment file may contain secrets" },
  { id := "env-variant"
    tier := .standard
    pattern := r"\.env\.(local|production|prod|development|dev|staging|test)$"
    reason := "Environment file variant may contain secrets" },
  { id := "key-material"
    tier := .standard
    pattern := r"\.(pem|key|p12|pfx|jks|keystore)$"
    reason := "Private key or certificate container" },
  { id := "ssh-dir"
    tier := .standard
    pattern := r"\.ssh/"
    reason := "SSH configuration directory" },
  { id := "token-rc-files"
    tier := .standard
    pattern := r"\.(netrc|npmrc|pypirc|pgpass|git-credentials)$"
    reason := "Authentication token file" },
  { id := "credentials-json"
    tier := .standard
    pattern := r"credentials\.json$"
    reason := "Credentials configuration file" },
  { id := "secrets-file"
    tier := .standard
    pattern := r"secrets?\.(json|ya?ml|toml)$"
    reason := "Secrets configuration file" },
  { id := "cloud-tokens"
    tier := .standard
    pattern := r"(gcloud/credentials\.db|\.azure/accessTokens\.json)$"
    reason := "Cloud provider access tokens" },
  { id := "passwd"
    tier := .standard
    pattern := r"/etc/passwd\b"
    reason := "System user database" },
  { id := "root-home"
    tier := .standard
    pattern := r"^/root(/|$)"
    reason := "Root user's home directory" } ]

/-- Anything that might hold secrets or system state. -/
def suspectPaths : List Rule := [
  { id := "etc-dir"
    tier := .strict
    pattern := r"(^|/)etc/"
    reason := "System configuration directory" },
  { id := "env-any"
    tier := .strict
    pattern := r"\.env"
    reason := "Environment file or directory" },
  { id := "secret-words"
    tier := .strict
    pattern := r"(secret|credential|passw(or)?d|token|private)"
    reason := "Path name suggests secrets" },
  { id := "tool-config-dirs"
    tier := .strict
    pattern := r"\.(config|aws|azure|gcloud|kube|docker|gnupg)/"
    reason := "Tool configuration directory" },
  { id := "kernel-pseudo-fs"
    tier := .strict
    pattern := r"^/(proc|sys|boot|dev)(/|$)"
    reason := "Kernel or boot filesystem" },
  { id := "ssh-key-name"
    tier := .strict
    pattern := r"\bid_[a-z0-9]+"
    reason := "SSH key file name" },
  { id := "certificates"
    tier := .strict
    pattern := r"\.(crt|cer|der|csr)$"
    reason := "Certificate file" } ]

/-- All path rules, in order of priority. -/
def sensitivePaths : List Rule :=
  credentialPaths ++ secretPaths ++ suspectPaths

end ScreenedSuite.Rule
