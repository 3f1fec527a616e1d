import FafIceAdapter.Lobby.Membership

namespace Faf.Testserver

/-- Two players of one game. -/
def Together (server : Testserver) (first second : Int) : Prop :=
  ∃ (host : Int) (players : Std.ExtTreeSet Int),
    server.games[host]? = some players ∧ first ∈ players ∧ second ∈ players

section Games

variable {server next : Testserver} {sockets : Finset Nat} {playerId : Int}

theorem together_symm (first second : Int) (together : server.Together first second) :
    server.Together second first := by
  obtain ⟨host, players, game, one, two⟩ := together
  exact ⟨host, players, game, two, one⟩

/-- The players of a game play with each other and with nobody else. -/
theorem together_iff (consistent : Consistent server sockets) {host : Int} {players : Std.ExtTreeSet Int}
    (game : server.games[host]? = some players) {first : Int} (member : first ∈ players) (second : Int) :
    server.Together first second ↔ second ∈ players := by
  constructor
  · intro together
    obtain ⟨other, members, found, one, two⟩ := together
    have same := (consistent.plays host players game first member).symm.trans
      (consistent.plays other members found first one)
    rw [← Option.some.inj same, game] at found
    exact Option.some.inj found ▸ two
  · exact fun also => ⟨host, players, game, member, also⟩

/-- A player that plays no game plays with nobody. -/
theorem together_idle (consistent : Consistent server sockets) (idle : server.playersGames[playerId]? = none)
    (other : Int) : ¬ server.Together playerId other ∧ ¬ server.Together other playerId := by
  constructor
  · intro together
    obtain ⟨host, players, game, one, _⟩ := together
    rw [consistent.plays host players game playerId one] at idle
    contradiction
  · intro together
    obtain ⟨host, players, game, _, two⟩ := together
    rw [consistent.plays host players game playerId two] at idle
    contradiction

/-- The games of the others stay, but for the game that has lost its host. -/
theorem Left.together (left : Left server playerId next) (first second : Int) :
    next.Together first second ↔ ∃ (host : Int) (players : Std.ExtTreeSet Int), host ≠ playerId ∧
      server.games[host]? = some players ∧ (first ∈ players ∧ second ∈ players) ∧
        first ≠ playerId ∧ second ≠ playerId := by
  constructor
  · intro together
    obtain ⟨host, players, game, one, two⟩ := together
    rw [left.games] at game
    obtain ⟨different, before⟩ := Option.ite_none_left_eq_some.mp game
    obtain ⟨former, found, rfl⟩ := Option.map_eq_some_iff.mp before
    rw [TreeMap.mem_erase] at one two
    exact ⟨host, former, Ne.symm different, found, ⟨one.2, two.2⟩, one.1, two.1⟩
  · intro before
    obtain ⟨host, players, different, game, ⟨one, two⟩, first', second'⟩ := before
    refine ⟨host, players.erase playerId, ?_, TreeMap.mem_erase.mpr ⟨first', one⟩, TreeMap.mem_erase.mpr ⟨second', two⟩⟩
    rw [left.games, if_neg (Ne.symm different), game, Option.map_some]

/-- A player that is no host leaves the others together. -/
theorem Left.together_fellow (left : Left server playerId next) (noHost : server.games[playerId]? = none)
    (first second : Int) :
    next.Together first second ↔ server.Together first second ∧ first ≠ playerId ∧ second ≠ playerId := by
  rw [left.together]
  constructor
  · intro after
    obtain ⟨host, players, _, game, both, others⟩ := after
    exact ⟨⟨host, players, game, both⟩, others⟩
  · intro before
    obtain ⟨⟨host, players, game, both⟩, others⟩ := before
    refine ⟨host, players, ?_, game, both, others⟩
    intro same
    rw [same, noHost] at game
    contradiction

theorem Left.together_host (left : Left server playerId next) (consistent : Consistent server sockets)
    {players : Std.ExtTreeSet Int} (game : server.games[playerId]? = some players) (first second : Int) :
    next.Together first second ↔ server.Together first second ∧ first ∉ players.toList := by
  have own := consistent.hosts playerId players game
  rw [left.together, Std.ExtTreeSet.mem_toList]
  constructor
  · intro after
    obtain ⟨host, members, different, found, both, _⟩ := after
    refine ⟨⟨host, members, found, both⟩, ?_⟩
    intro within
    have same := (consistent.plays playerId players game first within).symm.trans
      (consistent.plays host members found first both.1)
    exact different (Option.some.inj same).symm
  · intro before
    obtain ⟨⟨host, members, found, both⟩, outside⟩ := before
    have different : host ≠ playerId := by
      intro same
      rw [same, game] at found
      exact outside (Option.some.inj found ▸ both.1)
    have stranger : playerId ∉ members := by
      intro within
      have same := (consistent.plays playerId players game playerId own).symm.trans
        (consistent.plays host members found playerId within)
      exact different (Option.some.inj same).symm
    refine ⟨host, members, different, found, both, ?_, ?_⟩
    · exact fun same => stranger (same ▸ both.1)
    · exact fun same => stranger (same ▸ both.2)

/-- A player that plays no game joins the players of one. -/
theorem together_enter {host : Int} {former players : Std.ExtTreeSet Int}
    (game : server.games[host]?.getD ∅ = former) (grown : ∀ other, other ∈ players ↔ other = playerId ∨ other ∈ former)
    (first second : Int) (requests : List LobbyRequest) :
    Together { server with
        games := server.games.insert host players
        playersGames := server.playersGames.insert playerId host
        requests := requests } first second ↔
      server.Together first second ∨ (first = playerId ∧ (second = playerId ∨ second ∈ former)) ∨
        (second = playerId ∧ first ∈ former) := by
  constructor
  · intro together
    obtain ⟨other, members, found, one, two⟩ := together
    change (server.games.insert host players)[other]? = some members at found
    rw [TreeMap.get_insert] at found
    split at found
    · obtain rfl := Option.some.inj found
      rw [grown] at one two
      rcases one with rfl | one
      · exact .inr (.inl ⟨rfl, two⟩)
      · rcases two with rfl | two
        · exact .inr (.inr ⟨rfl, one⟩)
        · left
          cases known : server.games[host]? with
          | none =>
              rw [known, Option.getD_none] at game
              exact absurd (game ▸ one) Std.ExtTreeSet.not_mem_empty
          | some members =>
              rw [known, Option.getD_some] at game
              exact ⟨host, members, known, game ▸ one, game ▸ two⟩
    · exact .inl ⟨other, members, found, one, two⟩
  · intro joined
    have own : ∀ one two, one ∈ players → two ∈ players → Together { server with
        games := server.games.insert host players
        playersGames := server.playersGames.insert playerId host
        requests := requests } one two := by
      intro one two first' second'
      refine ⟨host, players, ?_, first', second'⟩
      change (server.games.insert host players)[host]? = _
      rw [TreeMap.get_insert, if_pos rfl]
    rcases joined with ⟨other, members, found, one, two⟩ | ⟨rfl, joins⟩ | ⟨rfl, fellow⟩
    · by_cases same : host = other
      · subst same
        rw [found, Option.getD_some] at game
        exact own first second ((grown first).mpr (.inr (game ▸ one))) ((grown second).mpr (.inr (game ▸ two)))
      · refine ⟨other, members, ?_, one, two⟩
        change (server.games.insert host players)[other]? = _
        rw [TreeMap.get_insert, if_neg same, found]
    · exact own first second ((grown first).mpr (.inl rfl)) ((grown second).mpr joins)
    · exact own first second ((grown first).mpr (.inr fellow)) ((grown second).mpr (.inl rfl))

end Games

end Faf.Testserver
