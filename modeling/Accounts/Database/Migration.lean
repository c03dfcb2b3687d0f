import Accounts.Dialogue
/-!
# The schema

The tables come into being by migrations, which are run in order, each in a
transaction of its own.  The first makes the outbox, the second the users.
-/

namespace Accounts.Database

/-- A script that brings the tables from one form to the next. -/
structure Migration where
  /-- The text of the script. -/
  text : String
deriving DecidableEq, Repr

namespace Migration

/-- Makes the outbox. -/
def createOutbox : Migration := ⟨"
-- Outbox table for the transactional outbox relay.
CREATE TYPE outbox_status AS ENUM ('created', 'done', 'error');

CREATE TABLE IF NOT EXISTS outbox_events (
    id BIGSERIAL PRIMARY KEY,
    topic TEXT NOT NULL,
    payload JSONB NOT NULL,
    status outbox_status NOT NULL DEFAULT 'created',
    created_at TIMESTAMPTZ NOT NULL DEFAULT NOW(),
    updated_at TIMESTAMPTZ NOT NULL DEFAULT NOW()
);

-- Claim path: oldest pending row first
CREATE INDEX IF NOT EXISTS idx_outbox_events_pending
    ON outbox_events (created_at, id)
    WHERE status = 'created';

CREATE INDEX IF NOT EXISTS idx_outbox_events_status_updated
    ON outbox_events (status, updated_at);
"⟩

/-- Makes the users. -/
def createUsers : Migration := ⟨"
-- Accounts and their optional TOTP second factor.
CREATE TYPE user_status AS ENUM ('registered', 'activated');

CREATE TABLE IF NOT EXISTS users (
    id BIGSERIAL PRIMARY KEY,
    public_id TEXT NOT NULL UNIQUE,
    email TEXT NOT NULL,
    first_name TEXT NOT NULL,
    last_name TEXT NOT NULL,
    password_hash TEXT NOT NULL,
    status user_status NOT NULL DEFAULT 'registered',
    activation_code TEXT,
    reset_password_code TEXT,
    otp_secret TEXT,
    otp_recovery_codes TEXT[] NOT NULL DEFAULT '\x7b\x7d',
    otp_enabled BOOLEAN NOT NULL DEFAULT FALSE,
    created_at TIMESTAMPTZ NOT NULL DEFAULT NOW(),
    updated_at TIMESTAMPTZ NOT NULL DEFAULT NOW(),
    CONSTRAINT users_email_key UNIQUE (email)
);

CREATE UNIQUE INDEX IF NOT EXISTS idx_users_activation_code
    ON users (activation_code)
    WHERE activation_code IS NOT NULL;

CREATE UNIQUE INDEX IF NOT EXISTS idx_users_reset_password_code
    ON users (reset_password_code)
    WHERE reset_password_code IS NOT NULL;
"⟩

/-- All migrations, in order. -/
def all : List Migration := [createOutbox, createUsers]

/-- The first statement of a migration, on one line. -/
def headline (m : Migration) : String :=
  let lines := (String.ofList (m.text.toList.takeWhile (· != ';'))).splitOn "\n"
  " ".intercalate (lines.filter (· != ""))

end Migration

end Accounts.Database
