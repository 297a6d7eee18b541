import Runbook.Settings.Load

/-! The settings that come with the application. -/

namespace Runbook.Settings

/-- The default file of the application. -/
def shippedFile : String := "[server]
host = \"127.0.0.1\"
port = 8000

[llm]
provider = \"ollama\"
model = \"qwen2.5-coder:7b\"

[ollama]
host = \"http://localhost:11434\"
timeout = 120

[openai_compatible]
base_url = \"http://localhost:1234/v1\"
api_key = \"\"
timeout = 120

[workflow]
directories = [\"~/.codi/workflows\", \".codi/workflows\", \"workflows\"]
state_dir = \"~/.codi/workflows/state\"
max_iterations = 1000
shell_timeout = 300.0

[github]
api_url = \"https://api.github.com\"
token = \"\"
timeout = 30

[security]
rate_limit_requests_per_minute = 100
cors_origins = [\"http://localhost:5173\"]

[logging]
level = \"INFO\"
file = \"\"
log_rotation_max_mb = 5
log_rotation_backups = 3
"

end Runbook.Settings
